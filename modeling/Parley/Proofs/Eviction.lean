import Parley.Proofs.Naming

/-!
# Parley.Proofs.Eviction

What storing a new execution takes out of a store: first the conversations that have expired, then,
as long as there are as many as the limit, the oldest ones, one after the other. Locked
conversations stay in either case. There are as many rounds as conversations, and each takes one
out, so the rounds are never what stops it.

* `Store.Evicts`: evictions that each had to be, and took the oldest.
* `Store.evicts_evict`: the rounds are such evictions, and they end where nothing more has to go or
  nothing more can.
* `Store.Evicts.conversation?`, `Store.Evicts.size_ge`: what they leave.
* `storing_evicts_no_more`: storing a new execution as a whole.
-/

namespace Parley

namespace Store

variable {s s' : Store} {id : ConversationId} {limit : Nat} {gone : List ConversationId}

/-! ## The oldest -/

theorem older_le (a b : ConversationId × Conversation) :
    (older a b).2.createdAt ≤ a.2.createdAt ∧ (older a b).2.createdAt ≤ b.2.createdAt := by
  unfold older
  split
  · rename_i lt
    exact ⟨Int.le_of_lt lt, Int.le_refl _⟩
  · rename_i ge
    exact ⟨Int.le_refl _, Int.not_lt.mp ge⟩

theorem foldl_older_le (first : ConversationId × Conversation)
    (rest : List (ConversationId × Conversation)) :
    ∀ entry ∈ first :: rest, (rest.foldl older first).2.createdAt ≤ entry.2.createdAt := by
  induction rest generalizing first with
  | nil => simp
  | cons second rest ih =>
    have least := ih (older first second)
    have both := least _ List.mem_cons_self
    obtain ⟨left, right⟩ := older_le first second
    intro entry mem
    rw [List.foldl_cons]
    rcases List.mem_cons.mp mem with rfl | mem
    · exact Int.le_trans both left
    · rcases List.mem_cons.mp mem with rfl | mem
      · exact Int.le_trans both right
      · exact least entry (List.mem_cons_of_mem _ mem)

theorem oldest?_le {t : Table ConversationId Conversation} {entry : ConversationId × Conversation}
    (h : oldest? t = some entry) : ∀ other ∈ t, entry.2.createdAt ≤ other.2.createdAt := by
  cases t with
  | nil => cases h
  | cons first rest =>
    cases h
    exact foldl_older_le first rest

theorem oldest?_eq_none_iff {t : Table ConversationId Conversation} :
    oldest? t = none ↔ t = [] := by
  cases t <;> simp [oldest?]

/-- The conversation is not locked, and none that is not locked either is older. -/
structure Oldest (s : Store) (id : ConversationId) : Prop where
  there : (s.conversation? id).isSome
  free : s.isLocked id = false
  least : ∀ other c d, s.conversation? id = some c → s.conversation? other = some d →
    s.isLocked other = false → c.createdAt ≤ d.createdAt

theorem oldest_of_evictable? (proper : s.Proper) (h : s.evictable? = some id) : s.Oldest id := by
  obtain ⟨⟨id, c⟩, found, rfl⟩ := Option.map_eq_some_iff.mp h
  obtain ⟨mem, free⟩ := List.mem_filter.mp (oldest?_mem found)
  have here : s.conversation? id = some c := (Table.get?_eq_some_iff proper).mpr mem
  refine ⟨by simp [here], by simpa using free, fun other c' d here' there unlocked => ?_⟩
  obtain rfl : c = c' := Option.some.inj (here.symm.trans here')
  have among : (other, d) ∈ s.conversations := (Table.get?_eq_some_iff proper).mp there
  exact oldest?_le found (other, d) (List.mem_filter.mpr ⟨among, by simp [unlocked]⟩)

/-- Every conversation that is there is locked. -/
def AllLocked (s : Store) : Prop := ∀ id, (s.conversation? id).isSome → s.isLocked id = true

theorem allLocked_of_evictable? (proper : s.Proper) (h : s.evictable? = none) : s.AllLocked := by
  intro id there
  obtain ⟨c, here⟩ := Option.isSome_iff_exists.mp there
  have mem : (id, c) ∈ s.conversations := (Table.get?_eq_some_iff proper).mp here
  have none_free := oldest?_eq_none_iff.mp (Option.map_eq_none_iff.mp h)
  simpa using List.filter_eq_nil_iff.mp none_free (id, c) mem

/-! ## The rounds -/

/-- Conversations evicted one after the other: there were as many as the limit each time, and it was
the oldest that had to go. -/
inductive Evicts (limit : Nat) : Store → List ConversationId → Store → Prop where
  | done (s : Store) : Evicts limit s [] s
  | next {s s' : Store} {id : ConversationId} {gone : List ConversationId}
      (full : limit ≤ s.size) (oldest : s.Oldest id) (rest : Evicts limit (s.drop id) gone s') :
      Evicts limit s (id :: gone) s'

theorem size_drop (proper : s.Proper) (there : (s.conversation? id).isSome) :
    (s.drop id).size + 1 = s.size := by
  obtain ⟨c, here⟩ := Option.isSome_iff_exists.mp there
  exact Table.length_erase proper here

/-- By induction on the rounds: each takes a conversation out, so there is always a round left for
each that is still there. -/
theorem evicts_evict {rounds : Nat} (proper : s.Proper) (enough : s.size ≤ rounds) :
    ∃ gone, Evicts s.settings.maxConversations s gone (evict rounds s) ∧
      (s.settings.maxConversations = 0 → gone = []) ∧
      (0 < s.settings.maxConversations →
        (evict rounds s).size < s.settings.maxConversations ∨ (evict rounds s).AllLocked) := by
  induction rounds generalizing s with
  | zero => exact ⟨[], .done s, fun _ => rfl, fun limited => .inl (by rw [evict]; omega)⟩
  | succ rounds ih =>
    rw [evict]
    split
    · rename_i roomy
      refine ⟨[], .done s, fun _ => rfl, fun limited => .inl ?_⟩
      exact roomy.resolve_left (by omega)
    · rename_i full
      obtain ⟨limited, full⟩ := not_or.mp full
      split
      · rename_i none_free
        exact ⟨[], .done s, fun _ => rfl, fun _ => .inr (allLocked_of_evictable? proper none_free)⟩
      · rename_i id found
        have oldest := oldest_of_evictable? proper found
        have smaller := size_drop proper oldest.there
        obtain ⟨gone, rest, -, ends⟩ := ih (proper.drop id) (by omega)
        refine ⟨id :: gone, .next (Nat.le_of_not_lt full) oldest rest, ?_, ends⟩
        exact fun unlimited => absurd unlimited limited

namespace Evicts

/-- What is evicted is gone, and nothing else. -/
theorem conversation? (h : Evicts limit s gone s') (other : ConversationId) :
    s'.conversation? other = if other ∈ gone then none else s.conversation? other := by
  induction h with
  | done => simp
  | @next s s' id gone _ _ _ ih =>
    rw [ih]
    by_cases e : other = id
    · simp [e]
    · simp [e, conversation?_drop_of_ne]

/-- It was not one too many: without the last eviction the limit would have been reached. -/
theorem size_ge (h : Evicts limit s gone s') (proper : s.Proper) :
    gone = [] ∨ limit ≤ s'.size + 1 := by
  induction h with
  | done => exact .inl rfl
  | next full oldest rest ih =>
    have one := size_drop proper oldest.there
    rcases ih (proper.drop _) with rfl | enough
    · cases rest
      exact .inr (by omega)
    · exact .inr enough

end Evicts

/-! ## The purge -/

theorem conversation?_purgeExpired_iff {now : Time} {c : Conversation} (proper : s.Proper) :
    (s.purgeExpired now).conversation? id = some c ↔
      s.conversation? id = some c ∧
        (s.isLocked id = true ∨ c.isExpired s.settings now = false) := by
  have filtered : (s.purgeExpired now).conversation? id = (s.conversation? id).filter _ :=
    Table.get?_filter proper
  rw [filtered, Option.filter_eq_some_iff]
  simp

theorem purgeExpired_of_never (now : Time) (never : s.settings.expiry? = none) :
    s.purgeExpired now = s := by
  simp [purgeExpired, Conversation.isExpired, never]

end Store

/-- **No more is evicted than has to be.** Storing an execution that is new first takes out exactly
the conversations that have expired and are not locked. Then, as long as there are as many as the
limit, it is the oldest of those that are not locked that goes, and nothing else goes; without the
last of them there would have been no room. The new conversation is there in any case. In the end
the limit is kept, or all others that are left are locked. -/
theorem storing_evicts_no_more {s : Store} {x : Execution} (proper : s.Proper) (new : x.key = none)
    (now : Time) (fresh : ConversationId) :
    ∃ purged gone roomy s', s.put now fresh x = (.ok ⟨fresh, 1⟩, s') ∧
      (∀ id c, purged.conversation? id = some c ↔ s.conversation? id = some c ∧
        (s.isLocked id = true ∨ c.isExpired s.settings now = false)) ∧
      (s.settings.expiry? = none → purged = s) ∧
      (∀ id, purged.isLocked id = s.isLocked id) ∧
      Store.Evicts s.settings.maxConversations purged gone roomy ∧
      (s.settings.maxConversations = 0 → gone = []) ∧
      (gone = [] ∨ s.settings.maxConversations ≤ roomy.size + 1) ∧
      (∀ id, id ≠ fresh →
        s'.conversation? id = if id ∈ gone then none else purged.conversation? id) ∧
      s'.conversation? fresh = some (.begin now x) ∧
      (0 < s.settings.maxConversations → s'.size ≤ s.settings.maxConversations ∨
        ∀ id, id ≠ fresh → (s'.conversation? id).isSome → s'.isLocked id = true) := by
  let purged := s.purgeExpired now
  let roomy := s.makeRoom now
  have still : purged.Proper := Table.nodup_keys_filter proper
  obtain ⟨gone, evicts, unlimited, ends⟩ := Store.evicts_evict still (Nat.le_refl _)
  have others (id : ConversationId) (ne : id ≠ fresh) :
      (roomy.insert now fresh x).conversation? id = roomy.conversation? id := by
    simp [Store.insert, Store.conversation?_write_of_ne ne]
  refine ⟨purged, gone, roomy, roomy.insert now fresh x, Store.put_new new,
    fun id c => Store.conversation?_purgeExpired_iff proper, Store.purgeExpired_of_never now,
    fun id => rfl, evicts, unlimited, evicts.size_ge still, fun id ne => ?_, ?_, fun limited => ?_⟩
  · rw [others id ne]
    exact evicts.conversation? id
  · simp [Store.insert]
  · rcases ends limited with below | locked
    · have longer : (roomy.insert now fresh x).size ≤ roomy.size + 1 := Table.length_put_le _ _ _
      exact .inl (Nat.le_trans longer below)
    · refine .inr fun id ne there => ?_
      rw [others id ne] at there
      rw [Store.isLocked, Store.insert, Store.lock_setLock_of_ne ne]
      exact locked id there

/-- Two conversations that both were locked when a third began beside them. -/
def crowding : List Operation :=
  [.put 0 1 waiter, .put 1 4 waiter, .acquire 1 "user", .acquire 4 "guest",
    .put 8000000 2 waiter, .release 4 "guest"]

/-- One expires unlocked, one is evicted, and the one that is locked stays. -/
theorem full_store_evicts_unlocked :
    let s := runAll crowding (.empty ⟨2, 0, 30000, 10⟩)
    ∃ s', s.put 16000000 3 waiter = (.ok ⟨3, 1⟩, s') ∧ s.conversations.keys = [1, 4, 2] ∧
      s'.conversations.keys = [1, 3] ∧
      (s'.size ≤ 2 ∨ ∀ id, id ≠ 3 → (s'.conversation? id).isSome → s'.isLocked id = true) := by
  intro s
  have proper : s.Proper := (Store.empty_proper _).runAll crowding
  have new : waiter.key = none := rfl
  obtain ⟨-, -, -, s', put, -, -, -, -, -, -, -, -, ends⟩ :=
    storing_evicts_no_more proper new 16000000 3
  have left : (s.put 16000000 3 waiter).2.conversations.keys = [1, 3] := by decide +kernel
  rw [put] at left
  exact ⟨s', put, by decide +kernel, left, ends (by decide)⟩

end Parley
