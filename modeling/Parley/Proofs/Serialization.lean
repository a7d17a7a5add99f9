import Parley.Proofs.Traffic

/-!
# Parley.Proofs.Serialization

Requests at the same time come to what they come to one after the other. The row is that in which
they take their locks; those that fail leave nothing behind and do not count.

* `Ledger`: every record is what the requests that have concluded so far make of it in that row.
* `Exclusive`, `HandedOver`: what the trace says of who came between whom, and of what was found.
* `resumes_serialize`: all of it together, whatever order the steps are taken in.
-/

namespace Parley

namespace Act

/-- The act reads or changes the conversation. -/
def touches : Act → Bool
  | locked => false
  | _ => true

/-- The act ends what loading has begun. -/
def concludes : Act → Bool
  | stored _ | removed => true
  | _ => false

def storedScope? : Act → Option Attributes
  | stored scope => some scope
  | _ => none

end Act

/-! ## The row of requests -/

namespace Traffic

variable {ι : Type}

def entrant? : ι × Act → Option ι
  | (i, .locked) => some i
  | _ => none

/-- The requests that have got their locks, in that order. -/
def order (t : Traffic ι) : List ι := t.trace.filterMap entrant?

def visitors (demand : ι → Demand) (id : ConversationId) (t : Traffic ι) : List ι :=
  t.order.filter fun i => (demand i).conversation = id

/-- Those of them that have stored or removed their executions, in that order too. -/
def storers (t : Traffic ι) : List ι := t.order.filter fun i => (t.progress i).isConcluded

theorem filter_storers (demand : ι → Demand) (id : ConversationId) (t : Traffic ι) :
    (t.storers.filter fun i => (demand i).conversation = id) =
      (t.visitors demand id).filter fun i => (t.progress i).isConcluded := by
  simp only [storers, visitors, List.filter_filter]
  exact List.filter_congr fun i _ => Bool.and_comm _ _

theorem entrant?_eq_none {record : Option Conversation} {act : Act}
    (h : act.Records record) (i : ι) : entrant? (i, act) = none := by
  cases h <;> rfl

end Traffic

section

variable {ι : Type} [DecidableEq ι] {e : Executor} {demand : ι → Demand} {s₀ s : Store}
  {t : Traffic ι} {k : ι} {p : Progress} {act : Option Act}

theorem Traffic.filter_isConcluded_after {row : List ι} (absent : k ∉ row) :
    (row.filter fun i => ((t.after k p s act).progress i).isConcluded) =
      row.filter fun i => (t.progress i).isConcluded :=
  List.filter_congr fun i here => by
    have ne : i ≠ k := by
      rintro rfl
      exact absent here
    rw [progress_after_of_ne ne]

/-- Only taking a lock makes the row longer. -/
theorem Stride.order (stride : Stride e (demand k) t.store (t.progress k) p s act) :
    (t.progress k = .located ∧ act = some .locked ∧ (t.after k p s act).order = t.order ++ [k] ∧
        ∃ l, (t.store.lock (demand k).conversation).acquire (demand k).owner = .ok l) ∨
      ((p.isInside = true → (t.progress k).isInside = true) ∧
        (t.after k p s act).order = t.order) := by
  have row : (t.after k p s act).order =
      t.order ++ (act.bind fun act => Traffic.entrant? (k, act)).toList := by
    cases act <;> simp [Traffic.order, Traffic.after, List.filterMap_cons]
    split <;> simp_all
  generalize t.progress k = q at stride ⊢
  cases stride with
  | enter acquired => exact .inl ⟨rfl, rfl, row, _, acquired⟩
  | outside _ after =>
    exact .inr ⟨fun inside => absurd inside (by simp [after]), by simpa using row⟩
  | conclude _ records =>
    rw [Option.bind_some, Traffic.entrant?_eq_none records] at row
    exact .inr ⟨fun _ => rfl, by simpa using row⟩
  | fail inside => exact .inr ⟨fun _ => inside, by simpa using row⟩
  | load => exact .inr ⟨fun _ => rfl, by simpa [Traffic.entrant?] using row⟩
  | _ => exact .inr ⟨fun _ => rfl, by simpa using row⟩

/-- Only concluding changes a record, and who has concluded, and writes a scope down. -/
theorem Stride.conclusion {d : Demand} {s s' : Store} {p p' : Progress}
    (h : Stride e d s p p' s' act) :
    (p'.isConcluded = p.isConcluded ∧ act.bind Act.storedScope? = none ∧
        ∀ id, s'.record? id = s.record? id) ∨
      (p.isInside = true ∧ p.isConcluded = false ∧ p'.isConcluded = true ∧
        (∃ a, act = some a ∧ a.Records (e.effect s.settings d (s.record? d.conversation))) ∧
        s.Updated d.conversation (e.effect s.settings d (s.record? d.conversation)) s') := by
  cases h with
  | outside _ _ concluded => exact .inl ⟨concluded, rfl, fun _ => rfl⟩
  | enter => exact .inl ⟨rfl, rfl, fun _ => rfl⟩
  | fail _ unconcluded spared =>
    exact .inl ⟨unconcluded.symm, rfl, fun _ => spared.record_eq⟩
  | load spared => exact .inl ⟨rfl, rfl, fun _ => spared.record_eq⟩
  | serve => exact .inl ⟨rfl, rfl, fun _ => rfl⟩
  | conclude updated records => exact .inr ⟨rfl, rfl, rfl, ⟨_, rfl, records⟩, updated⟩
  | @leave result =>
    have same : (Progress.answered result).isConcluded = (Progress.settled result).isConcluded := by
      cases result <;> rfl
    exact .inl ⟨same, rfl, fun _ => Store.record?_dropGuard⟩

theorem Stride.visitors_of_inside {id : ConversationId}
    (stride : Stride e (demand k) t.store (t.progress k) p s act)
    (inside : (t.progress k).isInside = true) :
    (t.after k p s act).visitors demand id = t.visitors demand id := by
  rcases stride.order with ⟨out, -⟩ | ⟨-, row⟩
  · rw [out] at inside
    cases inside
  · rw [Traffic.visitors, row]
    rfl

theorem Stride.storers_of_same (stride : Stride e (demand k) t.store (t.progress k) p s act)
    (same : p.isConcluded = (t.progress k).isConcluded) :
    (t.after k p s act).storers = t.storers := by
  have kept : (fun i => ((t.after k p s act).progress i).isConcluded) =
      fun i => (t.progress i).isConcluded := by
    funext i
    by_cases mine : i = k
    · rw [mine, Traffic.progress_after_self, same]
    · rw [Traffic.progress_after_of_ne mine]
  unfold Traffic.storers
  rw [kept]
  rcases stride.order with ⟨out, -, row, -⟩ | ⟨-, row⟩
  · have unconcluded : (t.progress k).isConcluded = false := by
      rw [out]
      rfl
    simp [row, unconcluded]
  · rw [row]

theorem Stride.early {d : Demand} {s s' : Store} {p p' : Progress} (h : Stride e d s p p' s' act)
    (early : p'.isEarly = true) : p.isEarly = true ∧ act = none := by
  cases h with
  | outside _ _ _ before => exact ⟨before early, rfl⟩
  | leave => cases early
  | _ => cases early

end

/-- Where the requests stand in the row, and what they have made of the records. -/
structure Ledger {ι : Type} (e : Executor) (demand : ι → Demand) (s₀ : Store) (t : Traffic ι) :
    Prop where
  once : ∀ entry ∈ t.trace, (t.progress entry.1).isEarly = false
  admitted : ∀ i ∈ t.order, ∃ l,
    (s₀.lock (demand i).conversation).acquire (demand i).owner = .ok l
  latest : ∀ i, (t.progress i).isInside = true →
    ∃ earlier, t.visitors demand (demand i).conversation = earlier ++ [i] ∧ i ∉ earlier
  record : ∀ id, t.store.record? id =
    e.effects demand s₀.settings (t.storers.filter fun i => (demand i).conversation = id)
      (s₀.record? id)

namespace Ledger

variable {ι : Type} {e : Executor} {demand : ι → Demand} {s₀ s : Store} {t : Traffic ι} {k : ι}
  {p : Progress} {act : Option Act}

theorem arrival : Ledger e demand s₀ (Traffic.arrival s₀) where
  once _ written := by cases written
  admitted _ entered := by cases entered
  latest _ inside := by cases inside
  record _ := rfl

theorem not_mem_order (ledger : Ledger e demand s₀ t) (early : (t.progress k).isEarly = true) :
    k ∉ t.order := by
  intro entered
  obtain ⟨⟨i, act⟩, written, same⟩ := List.mem_filterMap.mp entered
  have late := ledger.once _ written
  cases act <;> cases same
  rw [early] at late
  cases late

variable [DecidableEq ι]

theorem once_after (ledger : Ledger e demand s₀ t)
    (stride : Stride e (demand k) t.store (t.progress k) p s act) :
    ∀ entry ∈ (t.after k p s act).trace,
      ((t.after k p s act).progress entry.1).isEarly = false := by
  intro entry written
  rcases List.mem_append.mp written with before | new
  · by_cases mine : entry.1 = k
    · rw [mine, Traffic.progress_after_self, Bool.eq_false_iff]
      intro early
      have late := ledger.once entry before
      rw [mine, (stride.early early).1] at late
      cases late
    · rw [Traffic.progress_after_of_ne mine]
      exact ledger.once entry before
  · obtain ⟨a, happened, rfl⟩ : ∃ a, act = some a ∧ (k, a) = entry := by simpa using new
    rw [Traffic.progress_after_self, Bool.eq_false_iff]
    intro early
    rw [(stride.early early).2] at happened
    cases happened

theorem admitted_after (ledger : Ledger e demand s₀ t) (g : Guarded demand s₀ t)
    (distinct : (fun i => (demand i).owner).Injective)
    (stride : Stride e (demand k) t.store (t.progress k) p s act) :
    ∀ i ∈ (t.after k p s act).order, ∃ l,
      (s₀.lock (demand i).conversation).acquire (demand i).owner = .ok l := by
  intro i entered
  rcases stride.order with ⟨out, -, row, l, acquired⟩ | ⟨-, row⟩ <;> rw [row] at entered
  · rcases List.mem_append.mp entered with before | new
    · exact ledger.admitted i before
    · rw [List.mem_singleton.mp new]
      have vacant := g.vacant distinct (by rw [out]; rfl) acquired
      exact ⟨l, g.free _ vacant ▸ acquired⟩
  · exact ledger.admitted i entered

theorem latest_after (ledger : Ledger e demand s₀ t) (g : Guarded demand s₀ t)
    (distinct : (fun i => (demand i).owner).Injective)
    (stride : Stride e (demand k) t.store (t.progress k) p s act) :
    ∀ i, ((t.after k p s act).progress i).isInside = true → ∃ earlier,
      (t.after k p s act).visitors demand (demand i).conversation = earlier ++ [i] ∧
        i ∉ earlier := by
  intro i inside
  rcases stride.order with ⟨out, -, row, l, acquired⟩ | ⟨stay, row⟩ <;> rw [Traffic.visitors, row]
  · by_cases mine : i = k
    · subst mine
      refine ⟨t.visitors demand (demand i).conversation, ?_, fun found => ?_⟩
      · simp [Traffic.visitors]
      · exact ledger.not_mem_order (by rw [out]; rfl) (List.mem_filter.mp found).1
    · rw [Traffic.progress_after_of_ne mine] at inside
      have ne := g.vacant distinct (by rw [out]; rfl) acquired i inside
      simpa [Traffic.visitors, Ne.symm ne] using ledger.latest i inside
  · refine ledger.latest i ?_
    by_cases mine : i = k
    · rw [mine, Traffic.progress_after_self] at inside
      rw [mine]
      exact stay inside
    · rwa [Traffic.progress_after_of_ne mine] at inside

theorem record_after (ledger : Ledger e demand s₀ t) (g : Guarded demand s₀ t)
    (stride : Stride e (demand k) t.store (t.progress k) p s act) (id : ConversationId) :
    (t.after k p s act).store.record? id =
      e.effects demand s₀.settings
        ((t.after k p s act).storers.filter fun i => (demand i).conversation = id)
        (s₀.record? id) := by
  have before := ledger.record id
  rcases stride.conclusion with ⟨same, -, records⟩ | ⟨inside, unconcluded, concluded, -, updated⟩
  · rw [stride.storers_of_same same]
    exact (records id).trans before
  -- The request that concludes is the last one in the row of its conversation, so its effect comes
  -- last there; of other conversations it is no visitor.
  · obtain ⟨earlier, row, absent⟩ := ledger.latest k inside
    refine (updated.record id).trans ?_
    rw [Traffic.filter_storers] at before ⊢
    rw [stride.visitors_of_inside inside]
    split
    · rename_i mine
      subst mine
      rw [row, List.filter_append] at before ⊢
      rw [before, Traffic.filter_isConcluded_after absent, g.settings]
      simp [Executor.effects, unconcluded, concluded]
    · rename_i mine
      have absent : k ∉ t.visitors demand id := fun found =>
        mine (of_decide_eq_true (List.mem_filter.mp found).2)
      rw [before, Traffic.filter_isConcluded_after absent]

theorem after (ledger : Ledger e demand s₀ t) (g : Guarded demand s₀ t)
    (distinct : (fun i => (demand i).owner).Injective)
    (stride : Stride e (demand k) t.store (t.progress k) p s act) :
    Ledger e demand s₀ (t.after k p s act) where
  once := ledger.once_after stride
  admitted := ledger.admitted_after g distinct stride
  latest := ledger.latest_after g distinct stride
  record := ledger.record_after g stride

end Ledger

/-! ## The trace -/

section

variable {ι : Type} (demand : ι → Demand) (s₀ : Store)

/-- Between a request's load of a conversation and the end of that, no other one touches it. -/
def Exclusive (trace : List (ι × Act)) : Prop :=
  ∀ before between after i scope act,
    trace = before ++ (i, .loaded scope) :: between ++ (i, act) :: after → act.concludes = true →
      ∀ entry ∈ between, (demand entry.1).conversation = (demand i).conversation →
        entry.2.touches = true → entry.1 = i

/-- The conversation scope as the last request that has stored there left it, or as it was. -/
def scopeLeft (id : ConversationId) (trace : List (ι × Act)) : Option Attributes :=
  (trace.filterMap fun entry =>
    if (demand entry.1).conversation = id then entry.2.storedScope? else none).getLast?.or
    ((s₀.record? id).map (·.scope))

/-- A request finds the conversation scope as it was left. -/
def HandedOver (trace : List (ι × Act)) : Prop :=
  ∀ before after i scope, trace = before ++ (i, .loaded scope) :: after →
    scopeLeft demand s₀ (demand i).conversation before = some scope

end

namespace Act.Records

variable {record : Option Conversation} {a : Act}

theorem concludes (h : a.Records record) : a.concludes = true := by
  cases h <;> rfl

theorem eq_stored {r : Conversation} (h : a.Records (some r)) : a = .stored r.scope := by
  cases h
  rfl

end Act.Records

namespace Stride

variable {e : Executor} {d : Demand} {s s' : Store} {p p' : Progress} {a : Act}

theorem loaded {scope : Attributes} (h : Stride e d s p p' s' (some (.loaded scope))) :
    ∃ r, s.record? d.conversation = some r ∧ r.scope = scope := by
  cases h with
  | load _ found => exact ⟨_, found, rfl⟩
  | conclude _ records => cases records.concludes

theorem inside_of_touches (h : Stride e d s p p' s' (some a)) (touches : a.touches = true) :
    p.isInside = true := by
  cases h with
  | enter => cases touches
  | load => rfl
  | conclude => rfl

end Stride

theorem Act.touches_of_concludes {a : Act} (h : a.concludes = true) : a.touches = true := by
  cases a with
  | locked => cases h
  | _ => rfl

/-- A list with one more entry, parted at an entry: it is the new one, or the parting is older. -/
theorem concat_eq_append_cons {α : Type} {xs before after : List α} {a b : α}
    (h : xs ++ [a] = before ++ b :: after) :
    (after = [] ∧ xs = before ∧ a = b) ∨
      ∃ rest, after = rest ++ [a] ∧ xs = before ++ b :: rest := by
  rcases List.eq_nil_or_concat after with rfl | ⟨rest, c, rfl⟩
  · obtain ⟨rfl, e⟩ := List.append_inj' h rfl
    cases e
    exact .inl ⟨rfl, rfl, rfl⟩
  · rw [List.concat_eq_append, ← List.cons_append, ← List.append_assoc] at h
    obtain ⟨rfl, e⟩ := List.append_inj' h rfl
    cases e
    exact .inr ⟨rest, List.concat_eq_append, rfl⟩

theorem scopeLeft_concat {ι : Type} (demand : ι → Demand) (s₀ : Store) (id : ConversationId)
    (trace : List (ι × Act)) (k : ι) (a : Act) :
    scopeLeft demand s₀ id (trace ++ [(k, a)]) =
      if (demand k).conversation = id then a.storedScope?.or (scopeLeft demand s₀ id trace)
      else scopeLeft demand s₀ id trace := by
  unfold scopeLeft
  split
  · rename_i mine
    cases stored : a.storedScope? <;> simp [mine, stored]
  · rename_i mine
    simp [mine]

/-- What the trace says of scopes and of who came between whom, up to now. -/
structure Chronicle {ι : Type} (demand : ι → Demand) (s₀ : Store) (t : Traffic ι) : Prop where
  scope : ∀ id r, t.store.record? id = some r → scopeLeft demand s₀ id t.trace = some r.scope
  handedOver : HandedOver demand s₀ t.trace
  /-- Since a request that is inside has loaded, no other one has touched the conversation. -/
  quiet : ∀ i, (t.progress i).isInside = true → ∀ before between scope,
    t.trace = before ++ (i, .loaded scope) :: between → ∀ entry ∈ between,
      (demand entry.1).conversation = (demand i).conversation → entry.2.touches = true → entry.1 = i
  exclusive : Exclusive demand t.trace

namespace Chronicle

variable {ι : Type} {e : Executor} {demand : ι → Demand} {s₀ s : Store} {t : Traffic ι} {k : ι}
  {p : Progress} {act : Option Act}

theorem arrival : Chronicle demand s₀ (Traffic.arrival s₀) where
  scope id r found := by
    have found : s₀.record? id = some r := found
    simp [scopeLeft, Traffic.arrival, found]
  handedOver before _ _ _ h := by cases before <;> cases h
  quiet _ inside := by cases inside
  exclusive before _ _ _ _ _ h := by cases before <;> cases h

variable [DecidableEq ι]

theorem scope_after (c : Chronicle demand s₀ t)
    (stride : Stride e (demand k) t.store (t.progress k) p s act) :
    ∀ id r, (t.after k p s act).store.record? id = some r →
      scopeLeft demand s₀ id (t.after k p s act).trace = some r.scope := by
  intro id r found
  replace found : s.record? id = some r := found
  rcases stride.conclusion with ⟨-, silent, same⟩ | ⟨-, -, -, ⟨a, rfl, records⟩, updated⟩
  · rw [same] at found
    have before := c.scope id r found
    cases act with
    | none => rwa [Traffic.trace_after_none]
    | some a =>
      have silent : a.storedScope? = none := silent
      refine (scopeLeft_concat demand s₀ id t.trace k a).trans ?_
      rw [silent, Option.none_or, ite_self, before]
  · refine (scopeLeft_concat demand s₀ id t.trace k a).trans ?_
    rw [updated.record] at found
    split at found
    · rename_i mine
      rw [found] at records
      simp [mine, records.eq_stored, Act.storedScope?]
    · rename_i mine
      rw [if_neg mine, c.scope id r found]

theorem handedOver_after (c : Chronicle demand s₀ t)
    (stride : Stride e (demand k) t.store (t.progress k) p s act) :
    HandedOver demand s₀ (t.after k p s act).trace := by
  intro before after i scope parted
  cases act with
  | none =>
    rw [Traffic.trace_after_none] at parted
    exact c.handedOver before after i scope parted
  | some a =>
    rcases concat_eq_append_cons parted with ⟨-, rfl, new⟩ | ⟨rest, -, old⟩
    · cases new
      obtain ⟨r, found, rfl⟩ := stride.loaded
      exact c.scope _ r found
    · exact c.handedOver before rest i scope old

theorem quiet_after (c : Chronicle demand s₀ t) (ledger : Ledger e demand s₀ t)
    (g : Guarded demand s₀ t) (distinct : (fun i => (demand i).owner).Injective)
    (stride : Stride e (demand k) t.store (t.progress k) p s act) :
    ∀ i, ((t.after k p s act).progress i).isInside = true → ∀ before between scope,
      (t.after k p s act).trace = before ++ (i, .loaded scope) :: between → ∀ entry ∈ between,
        (demand entry.1).conversation = (demand i).conversation → entry.2.touches = true →
          entry.1 = i := by
  intro i inside before between scope parted entry here same touches
  have was : (t.progress i).isInside = true := by
    by_cases mine : i = k
    · subst mine
      rw [Traffic.progress_after_self] at inside
      rcases stride.order with ⟨out, rfl, -⟩ | ⟨stay, -⟩
      · -- It has just taken the lock and cannot have loaded before.
        have written : (i, Act.loaded scope) ∈ (t.after i p s (some .locked)).trace := by
          rw [parted]
          exact List.mem_append_right before List.mem_cons_self
        rcases List.mem_append.mp written with old | new
        · have late := ledger.once _ old
          rw [out] at late
          cases late
        · cases List.mem_singleton.mp new
      · exact stay inside
    · rwa [Traffic.progress_after_of_ne mine] at inside
  cases act with
  | none =>
    rw [Traffic.trace_after_none] at parted
    exact c.quiet i was before between scope parted entry here same touches
  | some a =>
    rcases concat_eq_append_cons parted with ⟨rfl, -, -⟩ | ⟨rest, rfl, old⟩
    · cases here
    · rcases List.mem_append.mp here with earlier | new
      · exact c.quiet i was before rest scope old entry earlier same touches
      · rw [List.mem_singleton.mp new] at same touches ⊢
        exact g.alone distinct (stride.inside_of_touches touches) was same

theorem exclusive_after (c : Chronicle demand s₀ t)
    (stride : Stride e (demand k) t.store (t.progress k) p s act) :
    Exclusive demand (t.after k p s act).trace := by
  intro before between after i scope a' parted concludes
  cases act with
  | none =>
    rw [Traffic.trace_after_none] at parted
    exact c.exclusive before between after i scope a' parted concludes
  | some a =>
    rcases concat_eq_append_cons parted with ⟨-, old, new⟩ | ⟨rest, -, old⟩
    · cases new
      have inside := stride.inside_of_touches (Act.touches_of_concludes concludes)
      exact c.quiet k inside before between scope old
    · exact c.exclusive before between rest i scope a' old concludes

theorem after (c : Chronicle demand s₀ t) (ledger : Ledger e demand s₀ t)
    (g : Guarded demand s₀ t) (distinct : (fun i => (demand i).owner).Injective)
    (stride : Stride e (demand k) t.store (t.progress k) p s act) :
    Chronicle demand s₀ (t.after k p s act) where
  scope := c.scope_after stride
  handedOver := c.handedOver_after stride
  quiet := c.quiet_after ledger g distinct stride
  exclusive := c.exclusive_after stride

end Chronicle

/-! ## Whole runs -/

structure Orderly {ι : Type} (e : Executor) (demand : ι → Demand) (s₀ : Store) (t : Traffic ι) :
    Prop where
  guarded : Guarded demand s₀ t
  current : t.Current e demand
  ledger : Ledger e demand s₀ t
  chronicle : Chronicle demand s₀ t

namespace Orderly

variable {ι : Type} {e : Executor} {demand : ι → Demand} {s₀ : Store} {t : Traffic ι}

theorem arrival : Orderly e demand s₀ (Traffic.arrival s₀) :=
  ⟨.arrival, fun _ => trivial, .arrival, .arrival⟩

variable [DecidableEq ι]

theorem advance (o : Orderly e demand s₀ t) (distinct : (fun i => (demand i).owner).Injective)
    (lasting : s₀.Lasting) (fresh : ι → ConversationId) (turn : ι × Time) :
    Orderly e demand s₀ (t.advance e demand fresh turn) := by
  have kept : t.store.Lasting := by rwa [Store.Lasting, o.guarded.settings]
  have stride :=
    e.next_stride (demand turn.1) (fresh turn.1) turn.2 kept (o.current turn.1)
  exact ⟨o.guarded.after distinct stride, o.current.after o.guarded distinct stride,
    o.ledger.after o.guarded distinct stride,
    o.chronicle.after o.ledger o.guarded distinct stride⟩

theorem run (o : Orderly e demand s₀ t) (distinct : (fun i => (demand i).owner).Injective)
    (lasting : s₀.Lasting) (fresh : ι → ConversationId) (turns : List (ι × Time)) :
    Orderly e demand s₀ (t.run e demand fresh turns) := by
  induction turns generalizing t with
  | nil => exact o
  | cons turn rest ih => exact ih (o.advance distinct lasting fresh turn)

end Orderly

/-- **Resumptions of a conversation serialize.** Requests under different ids take their steps in
any order, in a store that nothing expires in. Nobody touches a conversation between a request's
load of it and the end of that; each request finds the conversation scope as the last one left it
that stored before; and the records are what the storing requests make of them one after the other,
in the row in which they took their locks. -/
theorem resumes_serialize {ι : Type} [DecidableEq ι] (e : Executor) (demand : ι → Demand)
    (fresh : ι → ConversationId) (s₀ : Store) (turns : List (ι × Time))
    (distinct : (fun i => (demand i).owner).Injective) (lasting : s₀.Lasting) :
    let t := (Traffic.arrival s₀).run e demand fresh turns
    Exclusive demand t.trace ∧ HandedOver demand s₀ t.trace ∧
      ∀ clock id, t.store.record? id = (e.serial demand clock fresh t.storers s₀).record? id := by
  intro t
  have o : Orderly e demand s₀ t := Orderly.arrival.run distinct lasting fresh turns
  refine ⟨o.chronicle.exclusive, o.chronicle.handedOver, fun clock id => ?_⟩
  have free : ∀ i ∈ t.storers, ∃ l,
      (s₀.lock (demand i).conversation).acquire (demand i).owner = .ok l := fun i stored =>
    o.ledger.admitted i (List.mem_filter.mp stored).1
  rw [o.ledger.record, e.record?_serial demand clock fresh lasting free]

/-! ## A rush -/

/-- A store that keeps conversations for good, with the flow launched. -/
def patient : Store :=
  ((Executor.only silent).launch 0 1 "silent" .empty caller (.empty ⟨0, 30, 30000, 0⟩)).store

/-- Three requests to see the same view once more. -/
def spectators (i : Fin 3) : Demand := ⟨⟨1, 1⟩, none, ⟨i.val.repr, .empty⟩⟩

/-- The first one is held up with the lock in its hands: the second one tries in vain to take it,
and the third one waits until it is free again. -/
def rush : List (Fin 3 × Time) :=
  [(0, 1), (1, 2), (2, 3), (0, 4), (1, 5), (0, 6), (0, 7), (0, 8), (0, 9), (2, 10), (2, 11),
    (2, 12), (2, 13), (2, 14)]

theorem interleaved_resumes_serialize :
    let t := (Traffic.arrival patient).run (Executor.only silent) spectators (fun _ => 2) rush
    t.storers = [0, 2] ∧ ∀ clock id, t.store.record? id =
      ((Executor.only silent).serial spectators clock (fun _ => 2) [0, 2] patient).record? id := by
  intro t
  have storers : t.storers = [0, 2] := by decide +kernel
  have distinct : (fun i => (spectators i).owner).Injective := by
    unfold Function.Injective
    decide +kernel
  refine ⟨storers, fun clock id => ?_⟩
  rw [← storers]
  have serialized :=
    resumes_serialize (Executor.only silent) spectators (fun _ => 2) patient rush distinct rfl
  exact serialized.2.2 clock id

end Parley
