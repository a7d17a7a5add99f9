import Parley.Execution.Snapshot

/-!
# Parley.Proofs.Written

The written form of snapshots. A value goes into an outline and an outline into a document that says
it, and a reader of documents finds the value again, if the fields of its objects are sorted, as
those of maps are. Names and states are written as texts and read as what they were.

* `Outline.toValue_ofValue`, `Document.toValue?_ofValue`: the way of a value there and back.
* `Snapshot.ofDocument_toOutline`: the way of a snapshot.
-/

namespace Parley

/-! ## Sorted fields -/

namespace Fields

variable {α : Type}

def Sorted (fields : Fields α) : Prop := fields.Pairwise fun f g => f.1 < g.1

theorem put_last {name : String} {fields : Fields α} (last : ∀ f ∈ fields, f.1 < name) (value : α) :
    put name value fields = fields ++ [(name, value)] := by
  induction fields with
  | nil => rfl
  | cons field rest ih =>
    obtain ⟨key, old⟩ := field
    have before : key < name := last _ List.mem_cons_self
    have other : key ≠ name := String.ne_of_lt before
    have after : ¬ name < key := String.lt_asymm before
    rw [put, if_neg other, if_neg after, ih fun f mem => last f (List.mem_cons_of_mem _ mem)]
    rfl

/-- Putting the rest of sorted fields one after the other behind the first of them. -/
theorem foldl_put {first rest : Fields α} (sorted : (first ++ rest).Sorted) :
    rest.foldl (fun fields pair => put pair.1 pair.2 fields) first = first ++ rest := by
  induction rest generalizing first with
  | nil => simp
  | cons field rest ih =>
    obtain ⟨name, value⟩ := field
    have last : ∀ f ∈ first, f.1 < name := by
      intro f mem
      exact (List.pairwise_append.mp sorted).2.2 f mem _ List.mem_cons_self
    have moved : first ++ (name, value) :: rest = (first ++ [(name, value)]) ++ rest := by simp
    rw [moved] at sorted
    rw [List.foldl_cons, put_last last, ih sorted, moved]

theorem ofPairs_sorted {fields : Fields α} (sorted : fields.Sorted) : ofPairs fields = fields :=
  foldl_put sorted

end Fields

namespace Value

mutual

/-- The fields of all objects in the value are sorted. -/
def Sorted : Value → Prop
  | list items => AreSorted items
  | object fields => Fields.Sorted fields ∧ FieldsSorted fields
  | _ => True

def AreSorted : List Value → Prop
  | [] => True
  | v :: vs => Sorted v ∧ AreSorted vs

def FieldsSorted : List (String × Value) → Prop
  | [] => True
  | (_, v) :: fs => Sorted v ∧ FieldsSorted fs

end

end Value

/-! ## Values there and back -/

namespace Outline

theorem toValues_eq_map (os : List Outline) : toValues os = os.map toValue := by
  induction os with
  | nil => rfl
  | cons o os ih => rw [toValues, ih, List.map_cons]

mutual

theorem toValue_ofValue : ∀ v : Value, v.Sorted → (ofValue v).toValue = v
  | .null, _ => rfl
  | .bool _, _ => rfl
  | .number _, _ => rfl
  | .text _, _ => rfl
  | .list items, sorted => by
    rw [ofValue, toValue, toValues_ofValues items sorted]
  | .object fs, sorted => by
    rw [ofValue, toValue, toFields_ofFields fs sorted.2, Fields.ofPairs_sorted sorted.1]

theorem toValues_ofValues : ∀ vs : List Value, Value.AreSorted vs → toValues (ofValues vs) = vs
  | [], _ => rfl
  | v :: vs, sorted => by
    rw [ofValues, toValues, toValue_ofValue v sorted.1, toValues_ofValues vs sorted.2]

theorem toFields_ofFields : ∀ fs : List (String × Value), Value.FieldsSorted fs →
    toFields (ofFields fs) = fs
  | [], _ => rfl
  | (k, v) :: fs, sorted => by
    rw [ofFields, toFields, toValue_ofValue v sorted.1, toFields_ofFields fs sorted.2]

end

end Outline

namespace Document

theorem string?_text (m : Manner) (s : String) : (text s).string? m = some s := by
  cases m <;> rfl

theorem nameOf?_text (m : Manner) (names : List String) (s : String) :
    (text s).nameOf? m names = some s := by
  cases m <;> rfl

mutual

theorem toValue?_ofValue (m : Manner) : ∀ v : Value, v.Sorted → (ofValue v).toValue? m = some v
  | .null, _ => rfl
  | .bool _, _ => rfl
  | .number _, _ => rfl
  | .text _, _ => rfl
  | .list items, sorted => by
    rw [ofValue, toValue?, toValues?_ofValues m items sorted]
    rfl
  | .object fs, sorted => by
    rw [ofValue, toValue?, toFields?_ofFields m fs sorted.2, Option.map_some,
      Fields.ofPairs_sorted sorted.1]

theorem toValues?_ofValues (m : Manner) : ∀ vs : List Value, Value.AreSorted vs →
    toValues? m (ofValues vs) = some vs
  | [], _ => rfl
  | v :: vs, sorted => by
    rw [ofValues, toValues?, toValue?_ofValue m v sorted.1, toValues?_ofValues m vs sorted.2]

theorem toFields?_ofFields (m : Manner) : ∀ fs : List (String × Value), Value.FieldsSorted fs →
    toFields? m (ofFields fs) = some fs
  | [], _ => rfl
  | (k, v) :: fs, sorted => by
    rw [ofFields, toFields?, string?_text, toValue?_ofValue m v sorted.1,
      toFields?_ofFields m fs sorted.2]

end

theorem attributes?_ofValue {m : Manner} {a : Attributes} (sorted : a.toValue.Sorted) :
    (ofValue a.toValue).attributes? m = some a := by
  obtain ⟨fs⟩ := a
  simp only [Attributes.toValue, ofValue, attributes?, fields?, Option.bind_some,
    toFields?_ofFields m fs sorted.2, Option.map_some, Fields.ofPairs_sorted sorted.1]

section

variable (m : Manner) {α β : Type} {write : α → Value} {items : List α}

/-- Lists of things that come back. -/
theorem listOf?_map {read : Document → Option β} {back : α → β}
    (each : ∀ x ∈ items, read (ofValue (write x)) = some (back x)) :
    listOf? m read (ofValue (.list (items.map write))) = some (items.map back) := by
  simp only [ofValue, listOf?, items?, Option.bind_some]
  induction items with
  | nil => rfl
  | cons x rest ih =>
    obtain ⟨first, others⟩ := List.forall_mem_cons.mp each
    rw [List.map_cons, ofValues, List.mapM_cons, first, ih others]
    rfl

/-- Lists of things that come back as they were. -/
theorem listOf?_map_self {read : Document → Option α}
    (each : ∀ x ∈ items, read (ofValue (write x)) = some x) :
    listOf? m read (ofValue (.list (items.map write))) = some items := by
  have whole : listOf? m read (ofValue (.list (items.map write))) = some (items.map id) :=
    listOf?_map m each
  rwa [List.map_id] at whole

end

end Document

/-! ## Records -/

namespace Record

/-- The fields of an object, each as a document. -/
def documents (fields : List (String × Value)) : List (String × Document) :=
  fields.map fun f => (f.1, .ofValue f.2)

variable {m : Manner} {names : List String} {fields : List (String × Value)}

theorem named?_ofFields : named? m names (Document.ofFields fields) = some (documents fields) := by
  induction fields with
  | nil => rfl
  | cons f rest ih =>
    have name := Document.nameOf?_text m names f.1
    unfold named? at ih ⊢
    rw [Document.ofFields, List.mapM_cons, ih]
    simp only [name]
    rfl

theorem ofDocument_object (once : unrepeated names (documents fields) = true) :
    ofDocument m names (.ofValue (.object fields)) = some ⟨m, documents fields⟩ := by
  simp [ofDocument, Document.ofValue, Document.fields?, named?_ofFields, ofNamed, once]

end Record

/-! ## Snapshots -/

namespace Snapshot

/-- The attributes that the snapshot holds. -/
def kept (s : Snapshot) : List Attributes :=
  s.flash :: s.sessions.flatMap fun t => [t.scope, t.viewScope]

variable {s : Snapshot} {t : Session String}

theorem scopes_mem_kept (mem : t ∈ s.sessions) : t.scope ∈ s.kept ∧ t.viewScope ∈ s.kept := by
  have held (a : Attributes) (of : a ∈ [t.scope, t.viewScope]) : a ∈ s.kept :=
    List.mem_cons_of_mem _ (List.mem_flatMap.mpr ⟨t, mem, of⟩)
  exact ⟨held _ (by simp), held _ (by simp)⟩

theorem toValue_attributesOutline {a : Attributes} (sorted : a.toValue.Sorted) :
    (attributesOutline a).toValue = a.toValue := Outline.toValue_ofValue _ sorted

theorem optional?_option (state : Option String) :
    Document.optional? .json (Document.string? .json)
      (.ofValue (Outline.option state).toValue) = some state := by
  cases state <;> rfl

theorem readSessionStatus_name (status : SessionStatus) :
    readSessionStatus (.text status.name) = some status := by
  cases status <;> decide

theorem readStatus_name (status : ExecutionStatus) :
    readStatus (.text status.name) = some status := by
  cases status <;> decide

theorem readSession_sessionOutline (scope : t.scope.toValue.Sorted)
    (viewScope : t.viewScope.toValue.Sorted) :
    readSession (.ofValue (sessionOutline t).toValue) = some t := by
  have written : (sessionOutline t).toValue = .object [("flow_id", .text t.flow),
      ("scope", t.scope.toValue), ("state_id", (Outline.option t.state).toValue),
      ("status", .text t.status.name), ("view_scope", t.viewScope.toValue)] := by
    simp +decide only [sessionOutline, Outline.toValue, Outline.toFields, Fields.ofPairs,
      Fields.put, List.foldl_cons, List.foldl_nil, ite_true, ite_false,
      toValue_attributesOutline scope, toValue_attributesOutline viewScope]
  have once : Record.unrepeated ["flow_id", "state_id", "status", "scope", "view_scope"]
      (Record.documents [("flow_id", .text t.flow), ("scope", t.scope.toValue),
        ("state_id", (Outline.option t.state).toValue), ("status", .text t.status.name),
        ("view_scope", t.viewScope.toValue)]) = true := by
    simp [Record.unrepeated, Record.documents]
  rw [written, readSession, Record.ofDocument_object once]
  simp [Record.documents, Record.string, Record.optional, Record.orElse, Record.need, Fields.get?,
    Document.ofValue, Document.string?_text, optional?_option, readSessionStatus_name,
    Document.attributes?_ofValue scope, Document.attributes?_ofValue viewScope]

/-- The sessions, outermost first. -/
theorem listOf?_sessions {sessions : List (Session String)}
    (sorted : ∀ t ∈ sessions, t.scope.toValue.Sorted ∧ t.viewScope.toValue.Sorted) :
    Document.listOf? .json readSession
      (.ofValue (.list (Outline.toValues (sessions.map sessionOutline)))) = some sessions := by
  rw [Outline.toValues_eq_map, List.map_map]
  exact Document.listOf?_map_self .json fun t mem =>
    readSession_sessionOutline (sorted t mem).1 (sorted t mem).2

/-- **The written form of a snapshot loses nothing.** -/
theorem ofDocument_toOutline (sorted : ∀ a ∈ s.kept, a.toValue.Sorted) :
    ofDocument (.ofValue s.toOutline.toValue) = some s := by
  have flash : s.flash.toValue.Sorted := sorted _ List.mem_cons_self
  have scopes : ∀ t ∈ s.sessions.reverse, t.scope.toValue.Sorted ∧ t.viewScope.toValue.Sorted := by
    intro t mem
    obtain ⟨scope, viewScope⟩ := scopes_mem_kept (List.mem_reverse.mp mem)
    exact ⟨sorted _ scope, sorted _ viewScope⟩
  let sessions := Value.list (Outline.toValues (s.sessions.reverse.map sessionOutline))
  have written : s.toOutline.toValue = .object [("flash_scope", s.flash.toValue),
      ("flow_id", .text s.flow), ("sessions", sessions), ("status", .text s.status.name)] := by
    simp +decide only [toOutline, Outline.toValue, Outline.toFields, Fields.ofPairs, Fields.put,
      List.foldl_cons, List.foldl_nil, ite_true, ite_false, toValue_attributesOutline flash,
      sessions]
  have once : Record.unrepeated ["flow_id", "status", "sessions", "flash_scope"]
      (Record.documents [("flash_scope", s.flash.toValue), ("flow_id", .text s.flow),
        ("sessions", sessions), ("status", .text s.status.name)]) = true := by
    simp [Record.unrepeated, Record.documents]
  have stack : Document.listOf? .json readSession (.ofValue sessions) = some s.sessions.reverse :=
    listOf?_sessions scopes
  rw [written, ofDocument, Record.ofDocument_object once]
  simp [Record.documents, Record.string, Record.need, Fields.get?, Document.string?_text,
    Document.ofValue, readStatus_name, stack, Document.attributes?_ofValue flash]

end Snapshot

end Parley
