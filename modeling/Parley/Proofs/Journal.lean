import Parley.Execution.Run

/-!
# Parley.Proofs.Journal

The journal is written and never read. What had been written down before only stays in front of what
some work writes down, whatever else the work does (`Engine.Blind`). Reading the request and
changing it keep to this if they do, and so does all that is put together from work that keeps to
it.
-/

namespace Parley

/-- The request once an occurrence is written down. -/
def Request.told (hook : Hook) (r : Request) : Request :=
  { r with journal := r.journal ++ [.notice hook r.context] }

/-- The request with earlier entries in its journal. -/
def Request.after (earlier : List Entry) (r : Request) : Request :=
  { r with journal := earlier ++ r.journal }

namespace Request

variable (earlier : List Entry) (r : Request)

@[simp] theorem context_after : (r.after earlier).context = r.context := rfl

@[simp] theorem execution_after : (r.after earlier).execution = r.execution := rfl

theorem told_after (hook : Hook) : (r.after earlier).told hook = (r.told hook).after earlier := by
  simp [told, after, context]

theorem absorb_after (c : Context) :
    (r.after earlier).absorb c = (r.absorb c).after earlier := by
  simp [absorb, adopt, after, context]

theorem updateSession_after (f : Session Flow → Session Flow) :
    (r.after earlier).updateSession f = (r.updateSession f).after earlier := by
  unfold updateSession
  rw [execution_after]
  split <;> rfl

theorem take_after (t : Transition) : (r.after earlier).take t = (r.take t).after earlier := by
  simp [take, after]

theorem fire_after (t : Transition) : (r.after earlier).fire t = (r.fire t).after earlier := by
  simp [fire, after]

theorem leave_after (state : String) (position : Nat) (passed : Bool) :
    (r.after earlier).leave state position passed =
      (r.leave state position passed).after earlier := by
  simp [leave, after]

end Request

namespace Engine

variable {α β : Type}

/-- What the work on a request comes to, and the request that it leaves behind. -/
def outcome (x : Engine α) (r : Request) : Except Stop α × Request := (x.run r).run

theorem outcome_bind (x : Engine α) (f : α → Engine β) (r : Request) :
    outcome (x >>= f) r =
      match outcome x r with
      | (.ok a, r') => outcome (f a) r'
      | (.error e, r') => (.error e, r') := by
  unfold outcome ExceptT.run Id.run
  simp only [bind, ExceptT.bind, ExceptT.mk, StateT.bind, ExceptT.bindCont]
  cases x r with
  | mk result r' => cases result <;> rfl

theorem outcome_tryCatch (x : Engine α) (f : Stop → Engine α) (r : Request) :
    outcome (tryCatch x f) r =
      match outcome x r with
      | (.ok a, r') => (.ok a, r')
      | (.error e, r') => outcome (f e) r' := by
  unfold outcome ExceptT.run Id.run
  simp only [tryCatch, tryCatchThe, MonadExceptOf.tryCatch, ExceptT.tryCatch, ExceptT.mk, bind,
    StateT.bind]
  cases x r with
  | mk result r' => cases result <;> rfl

/-- What the work does is the same whatever the journal says. -/
def Blind (x : Engine α) : Prop :=
  ∀ earlier r, outcome x (r.after earlier) = ((outcome x r).1, (outcome x r).2.after earlier)

namespace Blind

theorem pure (a : α) : Blind (Pure.pure a) := fun _ _ => rfl

theorem throw (stop : Stop) : Blind (throw stop : Engine α) := fun _ _ => rfl

theorem bind {x : Engine α} {f : α → Engine β} (hx : Blind x) (hf : ∀ a, Blind (f a)) :
    Blind (x >>= f) := by
  intro earlier r
  rw [outcome_bind, outcome_bind, hx]
  rcases outcome x r with ⟨_ | a, r'⟩
  · rfl
  · exact hf a earlier r'

theorem tryCatch {x : Engine α} {f : Stop → Engine α} (hx : Blind x) (hf : ∀ stop, Blind (f stop)) :
    Blind (tryCatch x f) := by
  intro earlier r
  rw [outcome_tryCatch, outcome_tryCatch, hx]
  rcases outcome x r with ⟨stop | a, r'⟩
  · exact hf stop earlier r'
  · rfl

/-- Work that looks at the request, but not at its journal. -/
theorem look {f : Request → Engine β} (same : ∀ earlier r, f (r.after earlier) = f r)
    (h : ∀ r, Blind (f r)) : Blind (MonadState.get >>= f) := by
  intro earlier r
  have looked (r : Request) : outcome (MonadState.get >>= f) r = outcome (f r) r := rfl
  rw [looked, looked, same]
  exact h r earlier r

theorem modify {f : Request → Request} (same : ∀ earlier r, f (r.after earlier) =
    (f r).after earlier) : Blind (modify f : Engine Unit) := by
  intro earlier r
  exact congrArg (fun changed => (Except.ok (), changed)) (same earlier r)

theorem within (g : Context → α × Context) : Blind (within g) := by
  intro earlier r
  have done (r : Request) : outcome (Engine.within g) r =
      (.ok (g r.context).1, r.absorb (g r.context).2) := rfl
  rw [done, done, Request.context_after, Request.absorb_after]

theorem notify (hook : Hook) : Blind (notify hook) :=
  modify fun earlier r => r.told_after earlier hook

end Blind

end Engine

end Parley
