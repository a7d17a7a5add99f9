import Parley.Proofs.Change

/-!
# Parley.Proofs.Readings

What a journal shows of a request, reading after reading: a notice shows it at one moment, and what
was run of a flow shows it before and after. Where a scope passes from one value to another along a
journal (`Passes`), nobody but the flow has changed it: each reading finds it as the last one left
it. So what an attribute was once, it still is at the end, unless something was run later that
changed it (`Passes.persists`).

* `Request.Traceable`: from one moment of a request to a later one, a scope passes along what the
  journal has gained.
* The steps of a request that are hushed are traceable in every scope.
-/

namespace Parley

/-- What an entry shows of the request, before and after it. -/
def Entry.reading? : Entry → Option (Context × Context)
  | notice _ shown => some (shown, shown)
  | ran before after => some (before, after)
  | _ => none

/-- Along the entries the scope goes from one state to another, and only what is run of a flow
changes it. -/
inductive Passes (scope : Scope) :
    Option Attributes → List Entry → Option Attributes → Prop where
  | done {a : Option Attributes} : Passes scope a [] a
  | silent {a b : Option Attributes} {entry : Entry} {rest : List Entry}
      (unread : entry.reading? = none) (h : Passes scope a rest b) :
      Passes scope a (entry :: rest) b
  | noticed {a b : Option Attributes} {hook : Hook} {shown : Context} {rest : List Entry}
      (reads : shown.scope? scope = a) (h : Passes scope a rest b) :
      Passes scope a (.notice hook shown :: rest) b
  | ran {a b : Option Attributes} {before after : Context} {rest : List Entry}
      (reads : before.scope? scope = a) (h : Passes scope (after.scope? scope) rest b) :
      Passes scope a (.ran before after :: rest) b

/-- The scope has the attribute with the value. -/
def Holding (name : String) (value : Value) (a : Option Attributes) : Prop :=
  a.bind (·.get? name) = some value

/-- Something that was run of a flow has put an end to what held of the scope. -/
def Undone (scope : Scope) (P : Option Attributes → Prop) (entries : List Entry) : Prop :=
  ∃ before after, .ran before after ∈ entries ∧ P (before.scope? scope) ∧
    ¬ P (after.scope? scope)

theorem Undone.cons {scope : Scope} {P : Option Attributes → Prop} {entry : Entry}
    {rest : List Entry} (h : Undone scope P rest) : Undone scope P (entry :: rest) := by
  obtain ⟨before, after, mem, ends⟩ := h
  exact ⟨before, after, List.mem_cons_of_mem _ mem, ends⟩

namespace Passes

variable {scope : Scope} {a b c : Option Attributes} {front rest : List Entry}

theorem append (h : Passes scope a front b) (h' : Passes scope b rest c) :
    Passes scope a (front ++ rest) c := by
  induction h with
  | done => exact h'
  | silent unread _ ih => exact .silent unread (ih h')
  | noticed reads _ ih => exact .noticed reads (ih h')
  | ran reads _ ih => exact .ran reads (ih h')

theorem unread (silent : ∀ entry ∈ front, entry.reading? = none) : Passes scope a front a := by
  induction front with
  | nil => exact .done
  | cons entry rest ih =>
    exact .silent (silent entry List.mem_cons_self)
      (ih fun entry mem => silent entry (List.mem_cons_of_mem _ mem))

/-- What holds of the scope at first holds of it at the end, or it was undone. -/
theorem lasts {P : Option Attributes → Prop} (h : Passes scope a front b) (first : P a) :
    P b ∨ Undone scope P front := by
  induction h with
  | done => exact .inl first
  | silent _ _ ih => exact (ih first).imp_right .cons
  | noticed _ _ ih => exact (ih first).imp_right .cons
  | @ran _ _ before after _ reads _ ih =>
    by_cases still : P (after.scope? scope)
    · exact (ih still).imp_right .cons
    · exact .inr ⟨before, after, List.mem_cons_self, reads ▸ first, still⟩

/-- What holds of the scope once something was run holds of it at the end, or it was undone. -/
theorem persists {P : Option Attributes → Prop} {before after : Context}
    (h : Passes scope a (front ++ .ran before after :: rest) b) (once : P (after.scope? scope)) :
    P b ∨ Undone scope P rest := by
  induction front generalizing a with
  | nil =>
    cases h with
    | silent unread => cases unread
    | ran _ h => exact h.lasts once
  | cons entry front ih =>
    cases h with
    | silent _ h => exact ih h
    | noticed _ h => exact ih h
    | ran _ h => exact ih h

end Passes

namespace Request

/-- From one moment to a later one the scope passes along what was written down. -/
def Traceable (scope : Scope) (r r' : Request) : Prop :=
  ∃ added, r'.journal = r.journal ++ added ∧
    Passes scope (r.context.scope? scope) added (r'.context.scope? scope)

namespace Traceable

variable {scope : Scope} {r r' s : Request}

theorem refl (r : Request) : Traceable scope r r := ⟨[], (List.append_nil _).symm, .done⟩

theorem trans (h : Traceable scope r s) (h' : Traceable scope s r') : Traceable scope r r' := by
  obtain ⟨added, journal, passes⟩ := h
  obtain ⟨added', journal', passes'⟩ := h'
  exact ⟨added ++ added', by rw [journal', journal, List.append_assoc], passes.append passes'⟩

theorem of_steps (h : Relation.ReflTransGen (Traceable scope) r r') : Traceable scope r r' := by
  induction h with
  | refl => exact refl _
  | tail _ step ih => exact ih.trans step

theorem kept (journal : r'.journal = r.journal)
    (same : r'.context.scope? scope = r.context.scope? scope) : Traceable scope r r' :=
  ⟨[], by rw [journal, List.append_nil], same ▸ .done⟩

/-- One more entry, of which nobody reads anything, and the scope is as it was. -/
theorem written {entry : Entry} (unread : entry.reading? = none)
    (journal : r'.journal = r.journal ++ [entry])
    (same : r'.context.scope? scope = r.context.scope? scope) : Traceable scope r r' :=
  ⟨[entry], journal, same ▸ .silent unread .done⟩

theorem told (hook : Hook) (r : Request) : Traceable scope r (r.told hook) :=
  ⟨[.notice hook r.context], rfl, .noticed rfl .done⟩

theorem absorbed (r : Request) (c : Context) : Traceable scope r (r.absorb c) := by
  refine ⟨_, rfl, .append (.unread fun entry mem => ?_) (.ran rfl .done)⟩
  obtain ⟨value, -, rfl⟩ := List.mem_map.mp mem
  rfl

end Traceable

theorem scope?_updateSession {scope : Scope} {f : Session Flow → Session Flow}
    (own : ∀ s, (f s).scope = s.scope) (view : ∀ s, (f s).viewScope = s.viewScope) (r : Request) :
    (r.updateSession f).context.scope? scope = r.context.scope? scope := by
  unfold updateSession
  split
  · rfl
  · rename_i s rest stack
    cases scope with
    | flow => simp [context, Context.scope?, Context.session?, stack, Session.map, own]
    | view => simp [context, Context.scope?, Context.session?, stack, Session.map, view]
    | _ => rfl

end Request

instance {scope : Scope} : Hushed (Request.Traceable scope) where
  hush {r r'} h := by
    cases h with
    | noticed hook => exact .told hook r
    | absorbed c => exact .absorbed r c
    | status status =>
      obtain ⟨sessions, e⟩ := r.updateSession_eq fun s => { s with status := status }
      refine .kept (by rw [e]) (Request.scope?_updateSession ?_ ?_ r) <;> exact fun _ => rfl
    | event e => exact .kept rfl (by cases scope <;> rfl)
    | transition text => exact .kept rfl (by cases scope <;> rfl)
    | view v => exact .kept rfl (by cases scope <;> rfl)

namespace Engine

theorem MadeOf.traceable {α : Type} {scope : Scope} {x : Engine α}
    (h : MadeOf (Request.Traceable scope) x) (r : Request) :
    Request.Traceable scope r (outcome x r).2 := .of_steps (h.steps r)

end Engine

end Parley
