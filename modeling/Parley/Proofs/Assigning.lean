import Parley.Proofs.Success
import Parley.Value.Attributes

/-!
# Parley.Proofs.Assigning

Assigning at a path, in place. The walk to the place makes what is missing on its way, so one that
cannot go on could leave something behind. It does not: what stands in the way was there before, and
before anything is made, everything on the way is there. So an assignment does all of its work or
none, and what it does is felt at its path only.

* `Write`: what a write in place comes to, with what it leaves.
* `Value.overwrite_eq`, `Attributes.overwrite_eq`: it is all or nothing.
* `Value.assignAt_eq_error_iff`: it is nothing only if something stands in the way.
* `assignment_lawful`: the laws of assignments.
-/

namespace Parley

/-! ## Writing in place -/

/-- What a write comes to: whether it succeeded, and what it put in the place, if it touched it. -/
structure Write (α : Type) where
  outcome : Except EvaluationError Unit
  put? : Option α

namespace Write

variable {α β : Type}

/-- What stands in the place afterwards. -/
def after (w : Write α) (before : α) : α := w.put?.getD before

/-- The write that is all or nothing. -/
def whole : Except EvaluationError α → Write α
  | .ok a => ⟨.ok (), some a⟩
  | .error e => ⟨.error e, none⟩

/-- A write into a part is one into the whole. -/
def map (f : α → β) (w : Write α) : Write β := ⟨w.outcome, w.put?.map f⟩

/-- A write into a part that was made for it. The part stays, whatever comes of the write. -/
def intoNew (f : α → β) (made : α) (w : Write α) : Write β := ⟨w.outcome, some (f (w.after made))⟩

theorem map_whole (f : α → β) (x : Except EvaluationError α) :
    (whole x).map f = whole (x.map f) := by
  cases x <;> rfl

theorem intoNew_whole_ok (f : α → β) (made a : α) :
    (whole (.ok a)).intoNew f made = whole (.ok (f a)) := rfl

end Write

/-! ## The walk through a value -/

namespace Value

/-- An assignment in place. What is missing on the way is made before the walk goes on. -/
def overwriteAt (whole : Path) (new : Value) : Path → Value → Write Value
  | [], _ => ⟨.ok (), some new⟩
  | [last], v =>
    match v.fields? with
    | some fields => ⟨.ok (), some (object (Fields.put last new fields))⟩
    | none => ⟨.error (.invalidAssignment whole.text s!"parent of '{last}' is not an object"), none⟩
  | segment :: next :: path, v =>
    match v.fields? with
    | none => ⟨.error (.invalidAssignment whole.text s!"'{segment}' is not an object"), none⟩
    | some fields =>
      let hold (inner : Value) : Value := object (Fields.put segment inner fields)
      match Fields.get? segment fields with
      | some inner => (overwriteAt whole new (next :: path) inner).map hold
      | none => (overwriteAt whole new (next :: path) (object [])).intoNew hold (object [])

def overwrite (v : Value) (path : Path) (new : Value) : Write Value := overwriteAt path new path v

variable {whole path : Path} {new v : Value} {segment : String} {fields : List (String × Value)}

theorem assignAt_cons (inside : v.fields? = some fields) :
    assignAt whole new (segment :: path) v =
      (assignAt whole new path ((Fields.get? segment fields).getD (object []))).map fun inner =>
        object (Fields.put segment inner fields) := by
  cases path with
  | nil => simp only [assignAt, inside, Except.map]
  | cons next path =>
    simp only [assignAt, inside]
    cases assignAt whole new (next :: path) _ <;> rfl

theorem assignAt_cons_of_none (outside : v.fields? = none) :
    ∃ e, assignAt whole new (segment :: path) v = .error e := by
  cases path with
  | nil => exact ⟨_, by simp only [assignAt, outside]; rfl⟩
  | cons next path => exact ⟨_, by simp only [assignAt, outside]; rfl⟩

/-- Where there is nothing, nothing stands in the way. -/
theorem assignAt_of_empty (path : Path) (empty : v.fields? = some []) :
    ∃ w, assignAt whole new path v = .ok w := by
  induction path generalizing v with
  | nil => exact ⟨new, by cases v <;> rfl⟩
  | cons segment path ih =>
    obtain ⟨inner, made⟩ := ih (v := object []) rfl
    refine ⟨object (Fields.put segment inner []), ?_⟩
    rw [assignAt_cons empty]
    simp only [Fields.get?_nil, Option.getD_none, made, Except.map]

theorem overwriteAt_eq (path : Path) (v : Value) :
    overwriteAt whole new path v = .whole (assignAt whole new path v) := by
  induction path generalizing v with
  | nil => cases v <;> rfl
  | cons segment path ih =>
    cases path with
    | nil =>
      simp only [overwriteAt, assignAt]
      cases v.fields? <;> rfl
    | cons next path =>
      cases inside : v.fields? with
      | none => simp only [overwriteAt, assignAt, inside, Write.whole]
      | some fields =>
        rw [assignAt_cons inside]
        simp only [overwriteAt, inside]
        cases found : Fields.get? segment fields with
        | some inner => simp only [ih, Write.map_whole, Option.getD_some]
        | none =>
          -- A field that is made stays; but from there on the walk cannot fail.
          obtain ⟨w, made⟩ : ∃ w, assignAt whole new (next :: path) (object []) = .ok w :=
            assignAt_of_empty _ rfl
          simp only [ih, made, Option.getD_none, Write.intoNew_whole_ok, Except.map]

/-- An assignment does all of its work or none. -/
theorem overwrite_eq (v : Value) (path : Path) (new : Value) :
    v.overwrite path new = .whole (v.assign path new) := overwriteAt_eq path v

/-! ### What stands in the way -/

/-- On the way to the path stands something that cannot be written into. -/
def Blocks (v : Value) (path : Path) : Prop :=
  ∃ front, front <+: path ∧ front ≠ path ∧ ∃ x, v.lookup? front = some x ∧ x.fields? = none

theorem child?_of_fields? (inside : v.fields? = some fields) (segment : String) :
    v.child? segment = Fields.get? segment fields := by
  cases v with
  | null => cases inside; rfl
  | object fs => cases inside; rfl
  | bool | number | text | list => cases inside

theorem lookup?_cons (inside : v.fields? = some fields) :
    v.lookup? (segment :: path) = (Fields.get? segment fields).bind (lookup? path) := by
  rw [lookup?, child?_of_fields? inside]

/-- What is made for a field that is missing has nothing below it either. -/
theorem lookup?_getD {made : Value} (held : Option Value) (empty : made.fields? = some [])
    (below : path ≠ []) : (held.getD made).lookup? path = held.bind (lookup? path) := by
  cases held with
  | some x => rfl
  | none =>
    cases path with
    | nil => exact absurd rfl below
    | cons segment path => rw [Option.getD_none, lookup?_cons empty, Fields.get?_nil]; rfl

theorem blocks_getD_iff {made : Value} (held : Option Value) (empty : made.fields? = some []) :
    (held.getD made).Blocks path ↔ ∃ x, held = some x ∧ x.Blocks path := by
  cases held with
  | some x => simp
  | none =>
    simp only [Option.getD_none, reduceCtorEq, false_and, exists_false, iff_false]
    rintro ⟨front, -, -, x, found, outside⟩
    by_cases top : front = []
    · subst top
      cases found
      rw [empty] at outside
      cases outside
    · have nothing := lookup?_getD none empty top
      rw [Option.getD_none, found] at nothing
      cases nothing

theorem blocks_cons_iff : v.Blocks (segment :: path) ↔
    v.fields? = none ∨ ∃ inner, v.child? segment = some inner ∧ inner.Blocks path := by
  constructor
  · rintro ⟨front, begins, short, x, found, outside⟩
    cases front with
    | nil =>
      cases found
      exact .inl outside
    | cons first front =>
      obtain ⟨rfl, below⟩ := List.cons_prefix_cons.mp begins
      obtain ⟨inner, child, found⟩ := Option.bind_eq_some_iff.mp found
      exact .inr ⟨inner, child, front, below, fun same => short (same ▸ rfl), x, found, outside⟩
  · rintro (outside | ⟨inner, child, front, begins, short, x, found, outside⟩)
    · exact ⟨[], List.nil_prefix, nofun, v, rfl, outside⟩
    · refine ⟨segment :: front, List.cons_prefix_cons.mpr ⟨rfl, begins⟩, ?_, x, ?_, outside⟩
      · exact fun same => short (List.cons.inj same).2
      · simp only [lookup?, child, Option.bind_some, found]

theorem assignAt_eq_error_iff (path : Path) (v : Value) :
    (∃ e, assignAt whole new path v = .error e) ↔ v.Blocks path := by
  induction path generalizing v with
  | nil =>
    constructor
    · rintro ⟨e, failed⟩
      cases v <;> cases failed
    · rintro ⟨front, begins, short, -⟩
      exact absurd (List.prefix_nil.mp begins) short
  | cons segment path ih =>
    rw [blocks_cons_iff]
    cases inside : v.fields? with
    | none => simp only [assignAt_cons_of_none inside, true_or]
    | some fields =>
      rw [assignAt_cons inside, exists_map_eq_error_iff, ih, blocks_getD_iff _ rfl,
        child?_of_fields? inside]
      simp only [reduceCtorEq, false_or]

end Value

/-! ## The laws -/

/-- Neither path leads through the other. -/
def Path.Apart (p q : Path) : Prop := ¬ p <+: q ∧ ¬ q <+: p

theorem Path.Apart.ne_nil {p q : Path} (h : p.Apart q) : q ≠ [] :=
  fun none => h.2 (none ▸ List.nil_prefix)

/-- Where paths lie apart they part at one of their segments. -/
theorem Path.Apart.cases {segment : String} {p q : Path} (h : Path.Apart (segment :: p) q) :
    ∃ other rest, q = other :: rest ∧ (other ≠ segment ∨ other = segment ∧ p.Apart rest) := by
  obtain _ | ⟨other, rest⟩ := q
  · exact absurd rfl h.ne_nil
  refine ⟨other, rest, rfl, ?_⟩
  by_cases same : other = segment
  · subst same
    refine .inr ⟨rfl, fun begins => h.1 ?_, fun begins => h.2 ?_⟩
    · exact List.cons_prefix_cons.mpr ⟨rfl, begins⟩
    · exact List.cons_prefix_cons.mpr ⟨rfl, begins⟩
  · exact .inl same

namespace Value

variable {whole path other : Path} {new v after : Value} {segment : String}
  {fields : List (String × Value)}

/-- One step of a walk that comes to its end. -/
theorem of_assignAt_cons_eq_ok (ok : assignAt whole new (segment :: path) v = .ok after) :
    ∃ fields inner, v.fields? = some fields ∧
      assignAt whole new path ((Fields.get? segment fields).getD (object [])) = .ok inner ∧
      after = object (Fields.put segment inner fields) := by
  cases inside : v.fields? with
  | none =>
    obtain ⟨e, failed⟩ : ∃ e, assignAt whole new (segment :: path) v = .error e :=
      assignAt_cons_of_none inside
    rw [failed] at ok
    cases ok
  | some fields =>
    rw [assignAt_cons inside] at ok
    obtain ⟨inner, assigned, rfl⟩ := of_map_eq_ok ok
    exact ⟨fields, inner, rfl, assigned, rfl⟩

theorem lookup?_assignAt (path : Path) (ok : assignAt whole new path v = .ok after) :
    after.lookup? path = some new := by
  induction path generalizing v after with
  | nil =>
    cases v <;> cases ok <;> rfl
  | cons segment path ih =>
    obtain ⟨fields, inner, -, assigned, rfl⟩ := of_assignAt_cons_eq_ok ok
    rw [lookup?_cons rfl, Fields.get?_put_self, Option.bind_some, ih assigned]

/-- By induction on the path. Where a field is made on the way, nothing was found before either. -/
theorem lookup?_assignAt_of_apart (path : Path) (ok : assignAt whole new path v = .ok after)
    (apart : path.Apart other) : after.lookup? other = v.lookup? other := by
  induction path generalizing v after other with
  | nil => exact absurd List.nil_prefix apart.1
  | cons segment path ih =>
    obtain ⟨fields, inner, inside, assigned, rfl⟩ := of_assignAt_cons_eq_ok ok
    obtain ⟨name, rest, rfl, elsewhere | ⟨rfl, below⟩⟩ := apart.cases
    · rw [lookup?_cons rfl, lookup?_cons inside, Fields.get?_put_of_ne elsewhere]
    · rw [lookup?_cons rfl, lookup?_cons inside, Fields.get?_put_self, Option.bind_some,
        ih assigned below, lookup?_getD _ rfl below.ne_nil]

end Value

/-- What a write at a path should do: what is written is found there, what lies apart from it stays
as it was, and if the write fails, all does. -/
structure Write.Lawful {α : Type} (w : Write α) (lookup? : α → Path → Option Value) (before : α)
    (path : Path) (new : Value) : Prop where
  written : w.outcome = .ok () → lookup? (w.after before) path = some new
  apart : w.outcome = .ok () → ∀ other, path.Apart other →
    lookup? (w.after before) other = lookup? before other
  undone : ∀ e, w.outcome = .error e → w.after before = before

theorem Write.lawful_whole {α : Type} {lookup? : α → Path → Option Value} {before : α} {path : Path}
    {new : Value} {x : Except EvaluationError α}
    (written : ∀ a, x = .ok a → lookup? a path = some new)
    (apart : ∀ a, x = .ok a → ∀ other, path.Apart other → lookup? a other = lookup? before other) :
    (whole x).Lawful lookup? before path new := by
  cases x with
  | ok a => exact ⟨fun _ => written a rfl, fun _ => apart a rfl, fun _ failed => nomatch failed⟩
  | error e => exact ⟨fun ok => (nomatch ok), fun ok => (nomatch ok), fun _ _ => rfl⟩

namespace Attributes

/-- A value put at a path in place. The first name gets an attribute before the walk begins. -/
def overwrite (a : Attributes) (path : Path) (new : Value) : Write Attributes :=
  match path with
  | [] => ⟨.error (.invalidAssignment "" "empty path"), none⟩
  | first :: rest =>
    match a.get? first with
    | some held => (held.overwrite rest new).map (a.put first)
    | none => (Value.null.overwrite rest new).intoNew (a.put first) .null

variable {a after : Attributes} {path other rest : Path} {new : Value} {first : String}

theorem setPath_cons : a.setPath (first :: rest) new =
    (((a.get? first).getD .null).assign rest new).map (a.put first) := by
  rw [setPath]
  cases ((a.get? first).getD .null).assign rest new <;> rfl

theorem overwrite_eq (a : Attributes) (path : Path) (new : Value) :
    a.overwrite path new = .whole (a.setPath path new) := by
  cases path with
  | nil => rfl
  | cons first rest =>
    rw [setPath_cons]
    cases found : a.get? first with
    | some held =>
      simp only [overwrite, found, Value.overwrite_eq, Write.map_whole, Option.getD_some]
    | none =>
      obtain ⟨w, made⟩ : ∃ w, Value.null.assign rest new = .ok w := Value.assignAt_of_empty rest rfl
      simp only [overwrite, found, Value.overwrite_eq, made, Option.getD_none,
        Write.intoNew_whole_ok, Except.map]

theorem getPath?_cons : a.getPath? (first :: rest) = (a.get? first).bind (Value.lookup? rest) := rfl

theorem getPath?_setPath (ok : a.setPath path new = .ok after) :
    after.getPath? path = some new := by
  cases path with
  | nil => cases ok
  | cons first rest =>
    rw [setPath_cons] at ok
    obtain ⟨inner, assigned, rfl⟩ := of_map_eq_ok ok
    rw [getPath?_cons, get?, put, Fields.get?_put_self, Option.bind_some]
    exact Value.lookup?_assignAt rest assigned

theorem getPath?_setPath_of_apart (ok : a.setPath path new = .ok after) (apart : path.Apart other) :
    after.getPath? other = a.getPath? other := by
  cases path with
  | nil => cases ok
  | cons first rest =>
    rw [setPath_cons] at ok
    obtain ⟨inner, assigned, rfl⟩ := of_map_eq_ok ok
    obtain ⟨name, below, rfl, elsewhere | ⟨rfl, under⟩⟩ := apart.cases
    · rw [getPath?_cons, getPath?_cons, get?, put, Fields.get?_put_of_ne elsewhere]
      rfl
    · rw [getPath?_cons, getPath?_cons, get?, put, Fields.get?_put_self, Option.bind_some,
        Value.lookup?_assignAt_of_apart rest assigned under, Value.lookup?_getD _ rfl under.ne_nil]

theorem setPath_eq_error_iff :
    (∃ e, a.setPath path new = .error e) ↔ path = [] ∨ a.toValue.Blocks path := by
  cases path with
  | nil => simp [setPath]
  | cons first rest =>
    rw [setPath_cons, exists_map_eq_error_iff, Value.assign, Value.assignAt_eq_error_iff,
      Value.blocks_getD_iff _ rfl, Value.blocks_cons_iff]
    simp [toValue, Value.fields?, Value.child?, get?]

end Attributes

/-- **Assigning is lawful and all or nothing.** Done in place, an assignment at a path does all of
its work or none. If it succeeds, the new value is found at the path, and what lies apart from the
path is what it was. It fails only if something stands in the way that cannot be written into, and
then the value is exactly what it was. The same holds of attributes, where the empty path leads
nowhere. -/
theorem assignment_lawful (path : Path) (new : Value) :
    (∀ root : Value, root.overwrite path new = .whole (root.assign path new) ∧
      (root.overwrite path new).Lawful (fun v p => v.lookup? p) root path new ∧
      ((∃ e, root.assign path new = .error e) ↔ root.Blocks path)) ∧
    ∀ a : Attributes, a.overwrite path new = .whole (a.setPath path new) ∧
      (a.overwrite path new).Lawful Attributes.getPath? a path new ∧
      ((∃ e, a.setPath path new = .error e) ↔ path = [] ∨ a.toValue.Blocks path) := by
  refine ⟨fun root => ⟨root.overwrite_eq path new, ?_, Value.assignAt_eq_error_iff path root⟩,
    fun a => ⟨a.overwrite_eq path new, ?_, Attributes.setPath_eq_error_iff⟩⟩
  · rw [Value.overwrite_eq]
    exact Write.lawful_whole (fun _ ok => Value.lookup?_assignAt path ok)
      fun _ ok _ apart => Value.lookup?_assignAt_of_apart path ok apart
  · rw [Attributes.overwrite_eq]
    exact Write.lawful_whole (fun _ ok => Attributes.getPath?_setPath ok)
      fun _ ok _ apart => Attributes.getPath?_setPath_of_apart ok apart

/-- A list can be read through, but not written through. -/
example : (Value.list [.null]).lookup? ["0"] = some .null ∧
    ((Value.list [.null]).overwrite ["0"] (.bool true)).outcome.isOk = false :=
  ⟨rfl, rfl⟩

end Parley
