import Parley.Flow.Context
import Parley.Proofs.Assigning

/-!
# Parley.Proofs.Scopes

Where a request reads and writes a property. A path leads into one scope: the one that it names, or
the first that has an attribute of its first name, or the one in which new names begin. Writing goes
there and nowhere else, and reading finds it there, whatever other scopes have of that name.

* `Context.Leads`: the place that a path leads to.
* `Context.setProperty_eq_ok_iff`: writing changes the scope of that place.
* `property_written_once`: what is written is read back, and one scope has changed at most.
-/

namespace Parley

namespace Context

/-! ## The place of a path -/

/-- The scope in which names begin that no scope has. -/
def newcomers (c : Context) : Scope := if c.sessions.isEmpty then .request else .flow

/-- A path leads to a place: a scope and a path in it. -/
inductive Leads (c : Context) : Path → Scope → Path → Prop where
  | named {name : String} {rest : Path} {scope : Scope}
      (names : Scope.ofVariable? name = some scope) (below : rest ≠ []) :
      Leads c (name :: rest) scope rest
  | plain {first : String} {rest : Path} (unscoped : Scope.ofVariable? first = none)
      (free : first ∉ reserved) :
      Leads c (first :: rest) ((c.holder? first).getD c.newcomers) (first :: rest)

/-! ## Writing in place -/

/-- A write into one scope in place. -/
def overwriteScope (c : Context) (whole : Path) (scope : Scope) (path : Path) (new : Value) :
    Write Context :=
  match c.scope? scope with
  | none => ⟨.error (.invalidAssignment whole.text "no active flow session"), none⟩
  | some a => (a.overwrite path new).map (c.setScope scope)

/-- A property written in place. -/
def overwrite (c : Context) (path : Path) (new : Value) : Write Context :=
  match path with
  | [] => ⟨.error (.invalidAssignment "" "empty path"), none⟩
  | first :: rest =>
    match Scope.ofVariable? first with
    | some scope =>
      if rest.isEmpty then ⟨.error (.readOnlyProperty first), none⟩
      else c.overwriteScope path scope rest new
    | none =>
      if first ∈ reserved then ⟨.error (.readOnlyProperty path.text), none⟩
      else c.overwriteScope path ((c.holder? first).getD c.newcomers) path new

variable {c after : Context} {whole path below : Path} {scope other : Scope} {new : Value}
  {a : Attributes}

theorem overwriteScope_eq :
    c.overwriteScope whole scope below new = .whole (c.writeScope whole scope below new) := by
  rw [overwriteScope, writeScope]
  cases c.scope? scope with
  | none => rfl
  | some a =>
    simp only [Attributes.overwrite_eq, Write.map_whole]
    cases a.setPath below new <;> rfl

theorem overwrite_eq (c : Context) (path : Path) (new : Value) :
    c.overwrite path new = .whole (c.setProperty path new) := by
  cases path with
  | nil => rfl
  | cons first rest =>
    rw [overwrite, setProperty]
    cases Scope.ofVariable? first with
    | some scope =>
      by_cases bare : rest.isEmpty
      · simp only [if_pos bare, Write.whole]
      · simp only [if_neg bare, overwriteScope_eq]
    | none =>
      by_cases kept : first ∈ reserved
      · simp only [if_pos kept, Write.whole]
      · simp only [if_neg kept, overwriteScope_eq, newcomers]

theorem Leads.setProperty_eq (h : c.Leads path scope below) :
    c.setProperty path new = c.writeScope path scope below new := by
  cases h with
  | named names filled =>
    have filled : ¬ below.isEmpty = true := fun empty => filled (List.isEmpty_iff.mp empty)
    simp only [setProperty, names, if_neg filled]
  | plain unscoped free => simp only [setProperty, unscoped, if_neg free, newcomers]

theorem Leads.below_ne_nil (h : c.Leads path scope below) : below ≠ [] := by
  cases h with
  | named _ below => exact below
  | plain => exact List.cons_ne_nil _ _

/-- A property is written at the place that its path leads to. -/
theorem setProperty_eq_ok_iff : c.setProperty path new = .ok after ↔
    ∃ scope below a b, c.Leads path scope below ∧ c.scope? scope = some a ∧
      a.setPath below new = .ok b ∧ after = c.setScope scope b := by
  have written {scope : Scope} {below : Path} : c.writeScope path scope below new = .ok after ↔
      ∃ a b, c.scope? scope = some a ∧ a.setPath below new = .ok b ∧
        after = c.setScope scope b := by
    rw [writeScope]
    cases c.scope? scope with
    | none => simp
    | some a =>
      cases wrote : a.setPath below new with
      | error e => simp [wrote]
      | ok b => simp [wrote, eq_comm]
  constructor
  · intro ok
    cases path with
    | nil => cases ok
    | cons first rest =>
      cases names : Scope.ofVariable? first with
      | some scope =>
        by_cases bare : rest.isEmpty
        · simp only [setProperty, names, if_pos bare, reduceCtorEq] at ok
        · have leads : c.Leads (first :: rest) scope rest :=
            .named names fun none => bare (List.isEmpty_iff.mpr none)
          rw [leads.setProperty_eq, written] at ok
          obtain ⟨a, b, found, wrote, rfl⟩ := ok
          exact ⟨scope, rest, a, b, leads, found, wrote, rfl⟩
      | none =>
        by_cases kept : first ∈ reserved
        · simp only [setProperty, names, if_pos kept, reduceCtorEq] at ok
        · have leads : c.Leads (first :: rest) ((c.holder? first).getD c.newcomers)
              (first :: rest) := .plain names kept
          rw [leads.setProperty_eq, written] at ok
          obtain ⟨a, b, found, wrote, rfl⟩ := ok
          exact ⟨_, _, a, b, leads, found, wrote, rfl⟩
  · rintro ⟨scope, below, a, b, leads, found, wrote, rfl⟩
    rw [leads.setProperty_eq, written]
    exact ⟨a, b, found, wrote, rfl⟩

/-! ## Scopes beside the one that changes -/

theorem scope?_setScope_self (there : c.scope? scope = some a) (b : Attributes) :
    (c.setScope scope b).scope? scope = some b := by
  cases scope with
  | request | flash | conversation => rfl
  | flow | view =>
    cases sessions : c.sessions with
    | nil => simp [scope?, session?, sessions] at there
    | cons s rest => simp [setScope, updateSession, scope?, session?, sessions]

theorem scope?_setScope_of_ne (elsewhere : other ≠ scope) (b : Attributes) :
    (c.setScope scope b).scope? other = c.scope? other := by
  cases scope with
  | request | flash | conversation => cases other <;> first | rfl | exact absurd rfl elsewhere
  | flow | view =>
    cases sessions : c.sessions with
    | nil => simp [setScope, updateSession, sessions]
    | cons s rest =>
      cases other <;>
        simp_all [setScope, updateSession, scope?, session?]

theorem tail_sessions_setScope (c : Context) (scope : Scope) (b : Attributes) :
    (c.setScope scope b).sessions.tail = c.sessions.tail := by
  cases scope with
  | request | flash | conversation => rfl
  | flow | view => cases sessions : c.sessions <;> simp [setScope, updateSession, sessions]

/-! ## Reading what was written -/

/-- If the search can only come to one item, and what has changed about the items is that it finds
this one, it comes to this one. -/
theorem find?_eq_some_of_only {α : Type} {p q : α → Bool} {items : List α} {a : α} (mem : a ∈ items)
    (only : ∀ x, items.find? p = some x → x = a) (now : q a = true)
    (others : ∀ x, x ≠ a → q x = p x) : items.find? q = some a := by
  induction items with
  | nil => cases mem
  | cons x rest ih =>
    by_cases here : x = a
    · subst here
      rw [List.find?_cons_of_pos now]
    · have skipped : ¬ p x = true := fun holds => here (only x (List.find?_cons_of_pos holds))
      rw [List.find?_cons_of_neg skipped] at only
      rw [List.find?_cons_of_neg (others x here ▸ skipped)]
      exact ih ((List.mem_cons.mp mem).resolve_left (Ne.symm here)) only

theorem holder?_setScope {first : String} {b : Attributes} (there : c.scope? scope = some a)
    (only : ∀ s, c.holder? first = some s → s = scope) (has : b.contains first = true) :
    (c.setScope scope b).holder? first = some scope := by
  refine find?_eq_some_of_only ?_ only ?_ fun other elsewhere => ?_
  · cases scope <;> simp [Scope.searchOrder]
  · simp only [scope?_setScope_self there, Option.map_some, Option.getD_some, has]
  · simp only [scope?_setScope_of_ne elsewhere]

theorem Leads.property?_setScope {b : Attributes} (h : c.Leads path scope below)
    (there : c.scope? scope = some a) (found : b.getPath? below = some new) :
    (c.setScope scope b).property? path = some new := by
  cases h with
  | named names filled =>
    simp only [property?, names, scope?_setScope_self there, Option.bind_some]
    cases below with
    | nil => exact absurd rfl filled
    | cons => exact found
  | @plain first rest unscoped free =>
    have has : b.contains first = true := by
      obtain ⟨held, got, -⟩ := Option.bind_eq_some_iff.mp found
      rw [Attributes.contains, got]
      rfl
    have holder := holder?_setScope there (fun s held => by rw [held]; rfl) has
    have searched : (c.setScope ((c.holder? first).getD c.newcomers) b).searched? first rest =
        some new := by
      simp only [searched?, holder, scope?_setScope_self there, Option.bind_some, found]
    simp only [property?, unscoped]
    -- The names that are not searched for are those that are not free.
    split
    · exact absurd (by decide) free
    · exact absurd (by decide) free
    · exact absurd (by decide) free
    · exact searched

/-- Writing fails only where a path leads nowhere, to a scope that is not there, or behind something
that cannot be written into. -/
theorem exists_setProperty_eq_ok_iff : (∃ after, c.setProperty path new = .ok after) ↔
    ∃ scope below a, c.Leads path scope below ∧ c.scope? scope = some a ∧
      ¬ a.toValue.Blocks below := by
  have writable {a : Attributes} {below : Path} (filled : below ≠ []) :
      (∃ b, a.setPath below new = .ok b) ↔ ¬ a.toValue.Blocks below := by
    have fails : (∃ e, a.setPath below new = .error e) ↔ below = [] ∨ a.toValue.Blocks below :=
      Attributes.setPath_eq_error_iff
    rw [or_iff_right filled] at fails
    rw [← fails]
    cases a.setPath below new <;> simp
  constructor
  · rintro ⟨after, ok⟩
    obtain ⟨scope, below, a, b, leads, found, wrote, -⟩ := setProperty_eq_ok_iff.mp ok
    exact ⟨scope, below, a, leads, found, (writable leads.below_ne_nil).mp ⟨b, wrote⟩⟩
  · rintro ⟨scope, below, a, leads, found, free⟩
    obtain ⟨b, wrote⟩ := (writable leads.below_ne_nil).mpr free
    exact ⟨_, setProperty_eq_ok_iff.mpr ⟨scope, below, a, b, leads, found, wrote, rfl⟩⟩

end Context

/-- **What is written is read back, and only one scope changes.** A property is written in place. If
that succeeds, the same path leads to the value afterwards, whatever the scopes have; one scope has
other attributes than before, at most, and all else is the same, the scopes of the sessions below
too. If it fails, nothing has changed. It succeeds exactly where a path leads to a scope that is
there, and nothing is in its way. -/
theorem property_written_once (c : Context) (path : Path) (new : Value) :
    let w := c.overwrite path new
    w = .whole (c.setProperty path new) ∧
    (w.outcome = .ok () → (w.after c).property? path = some new ∧
      ∃ scope b, w.after c = c.setScope scope b ∧
        (∀ other, other ≠ scope → (w.after c).scope? other = c.scope? other) ∧
        (w.after c).sessions.tail = c.sessions.tail) ∧
    (∀ e, w.outcome = .error e → w.after c = c) ∧
    ((∃ after, c.setProperty path new = .ok after) ↔ ∃ scope below a,
      c.Leads path scope below ∧ c.scope? scope = some a ∧ ¬ a.toValue.Blocks below) := by
  intro w
  have all : w = .whole (c.setProperty path new) := c.overwrite_eq path new
  refine ⟨all, ?_, ?_, Context.exists_setProperty_eq_ok_iff⟩
  · rw [all]
    cases ok : c.setProperty path new with
    | error e => exact fun none => nomatch none
    | ok after =>
      intro _
      obtain ⟨scope, below, a, b, leads, found, wrote, rfl⟩ := Context.setProperty_eq_ok_iff.mp ok
      refine ⟨leads.property?_setScope found (Attributes.getPath?_setPath wrote), scope, b, rfl,
        fun other elsewhere => Context.scope?_setScope_of_ne elsewhere b, ?_⟩
      exact c.tail_sessions_setScope scope b
  · rw [all]
    cases c.setProperty path new with
    | error e => exact fun _ _ => rfl
    | ok after => exact fun _ none => nomatch none

end Parley
