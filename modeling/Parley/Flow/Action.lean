import Parley.Flow.Context

/-!
# Parley.Flow.Action

Actions, and the views that actions can render. An action is any function of the context that
signals an event or fails; what it changed stays changed either way.
-/

namespace Parley

abbrev Action := Context → Except ActionError Event × Context

/-- Makes a view of the context. -/
abbrev ViewFactory := Context → Except ActionError RenderedView

namespace Action

/-- The event that tells of a value: a truth value answers yes or no, a text names its event. -/
def resultEvent : Value → Event
  | .bool b => .yesOrNo b
  | .text s => if s.isEmpty then .success else .named s
  | _ => .success

/-- The value in the type asked for, if one is. -/
def converted (type : Option String) (v : Value) : Except ActionError Value :=
  match type with
  | none => .ok v
  | some type =>
    match convert type v with
    | .ok w => .ok w
    | .error e => .error (.ofConversion e)

/-- Evaluates an expression and keeps its value, if a place for it is given. The event tells of
the value. -/
def evaluate (expression : Expression) (result : Option Expression) (type : Option String) :
    Action :=
  fun c =>
    match converted type (expression.eval c) with
    | .error e => (.error e, c)
    | .ok value =>
      match result with
      | none => (.ok (resultEvent value), c)
      | some place =>
        match place.assign value c with
        | .error e => (.error (.ofEvaluation e), c)
        | .ok changed => (.ok (resultEvent value), changed)

/-- Evaluates one expression and writes its value to the other. -/
def set (target value : Expression) (type : Option String) : Action :=
  fun c =>
    match converted type (value.eval c) with
    | .error e => (.error e, c)
    | .ok value =>
      match target.assign value c with
      | .error e => (.error (.ofEvaluation e), c)
      | .ok changed => (.ok .success, changed)

/-- Renders a view at once. -/
def render (factory : ViewFactory) : Action :=
  fun c =>
    match factory c with
    | .error e => (.error e, c)
    | .ok view => (.ok .success, { c with rendered := some view })

end Action

namespace ViewFactory

/-- The scopes that a view shows. -/
def shownScopes : List Scope := [.flash, .flow, .view]

/-- A view whose name is an expression and which shows the flash, flow and view scopes. -/
def named (id : Expression) : ViewFactory :=
  fun c =>
    let shown := shownScopes.filterMap fun scope =>
      (c.scope? scope).map fun a => (scope.variableName, a.toValue)
    .ok ⟨(id.eval c).display, .object shown⟩

end ViewFactory

end Parley
