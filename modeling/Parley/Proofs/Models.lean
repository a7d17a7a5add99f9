import Parley.Model.Reading
import Parley.Model.Writing
import Parley.Proofs.Written

/-!
# Parley.Proofs.Models

The written form of flow models. Each writer has its reader, and what goes out through the one comes
back through the other. One thing is lost: a variable whose value is nothing is written as one
without a value, and comes back as such.

* `FlowModel.reread`: a model without the values that are nothing.
* `FlowModel.ofDocument_toValue`: what is read back is that.
-/

namespace Parley

/-! ## Fields in order -/

namespace Fields

variable {α : Type} {name : String} {v : α} {fields : Fields α}

theorem mem_put {f : String × α} (mem : f ∈ put name v fields) :
    f = (name, v) ∨ f ∈ fields := by
  induction fields with
  | nil => exact .inl (List.mem_singleton.mp mem)
  | cons field rest ih =>
    obtain ⟨key, old⟩ := field
    rw [put] at mem
    split at mem
    · exact (List.mem_cons.mp mem).imp_right (List.mem_cons_of_mem _)
    · split at mem
      · exact List.mem_cons.mp mem
      · rcases List.mem_cons.mp mem with rfl | mem
        · exact .inr List.mem_cons_self
        · exact (ih mem).imp_right (List.mem_cons_of_mem _)

theorem sorted_put (sorted : fields.Sorted) : (put name v fields).Sorted := by
  induction fields with
  | nil => exact List.pairwise_singleton _ _
  | cons field rest ih =>
    obtain ⟨key, old⟩ := field
    obtain ⟨first, others⟩ := List.pairwise_cons.mp sorted
    rw [put]
    split
    · rename_i same
      subst same
      exact List.pairwise_cons.mpr ⟨first, others⟩
    · rename_i other
      split
      · rename_i before
        refine List.pairwise_cons.mpr ⟨fun f mem => ?_, sorted⟩
        rcases List.mem_cons.mp mem with rfl | mem
        · exact before
        · exact String.lt_trans before (first f mem)
      · rename_i after
        refine List.pairwise_cons.mpr ⟨fun f mem => ?_, ih others⟩
        rcases mem_put mem with rfl | mem
        · refine String.not_le.mp fun reverse => other ?_
          exact String.le_antisymm (String.not_lt.mp after) reverse
        · exact first f mem

theorem sorted_ofPairs (pairs : List (String × α)) : (ofPairs pairs).Sorted := by
  have sorted_foldl : ∀ fields : Fields α, fields.Sorted →
      (pairs.foldl (fun fields pair => put pair.1 pair.2 fields) fields).Sorted := by
    induction pairs with
    | nil => exact fun _ sorted => sorted
    | cons pair pairs ih => exact fun _ sorted => ih _ (sorted_put sorted)
  exact sorted_foldl [] List.Pairwise.nil

theorem nodup_of_sorted (sorted : fields.Sorted) : (fields.map Prod.fst).Nodup :=
  List.pairwise_map.mpr (List.Pairwise.imp (fun before => String.ne_of_lt before) sorted)

theorem get?_foldl_of_not_mem {pairs : List (String × α)} (absent : name ∉ pairs.map Prod.fst)
    (fields : Fields α) :
    get? name (pairs.foldl (fun fields pair => put pair.1 pair.2 fields) fields) =
      get? name fields := by
  induction pairs generalizing fields with
  | nil => rfl
  | cons pair pairs ih =>
    rw [List.map_cons, List.mem_cons, not_or] at absent
    rw [List.foldl_cons, ih absent.2, get?_put_of_ne absent.1]

theorem get?_ofPairs {pairs : List (String × α)} (once : (pairs.map Prod.fst).Nodup)
    (mem : (name, v) ∈ pairs) : get? name (ofPairs pairs) = some v := by
  obtain ⟨before, after, rfl⟩ := List.append_of_mem mem
  have absent : name ∉ after.map Prod.fst := by
    rw [List.map_append, List.map_cons] at once
    exact (List.nodup_cons.mp (List.nodup_append.mp once).2.1).1
  rw [ofPairs, List.foldl_append, List.foldl_cons, get?_foldl_of_not_mem absent, get?_put_self]

theorem get?_filter {names : List String} (other : name ∉ names) :
    get? name (fields.filter fun field => field.1 ∉ names) = get? name fields := by
  induction fields with
  | nil => rfl
  | cons field rest ih =>
    obtain ⟨key, value⟩ := field
    by_cases same : key = name
    · subst same
      simp [other, get?]
    · by_cases kept : key ∈ names <;> simp_all [get?]

end Fields

/-! ## Parts of documents -/

theorem Value.eq_null_of_isNull {v : Value} (nothing : v.isNull = true) : v = .null := by
  cases v <;> first | rfl | cases nothing

namespace Document

mutual

theorem isWhole_ofValue : ∀ v : Value, (ofValue v).isWhole = true
  | .null | .bool _ | .number _ | .text _ => rfl
  | .list items => areWhole_ofValues items
  | .object fs => areWholeFields_ofFields fs

theorem areWhole_ofValues : ∀ vs : List Value, areWhole (ofValues vs) = true
  | [] => rfl
  | v :: vs => by rw [ofValues, areWhole, isWhole_ofValue v, areWhole_ofValues vs]; rfl

theorem areWholeFields_ofFields : ∀ fs : List (String × Value),
    areWholeFields (ofFields fs) = true
  | [] => rfl
  | (k, v) :: fs => by
    rw [ofFields, areWholeFields, isWhole_ofValue v, areWholeFields_ofFields fs]
    rfl

end

variable (m : Manner)

@[simp] theorem string?_ofValue_text (s : String) : (ofValue (.text s)).string? m = some s :=
  string?_text m s

@[simp] theorem string?_ofValue_object (fields : List (String × Value)) :
    (ofValue (.object fields)).string? m = none := by
  cases m <;> rfl

@[simp] theorem bool?_ofValue (b : Bool) : (ofValue (.bool b)).bool? m = some b := by
  cases m <;> rfl

theorem isAbsent?_ofValue (v : Value) : (ofValue v).isAbsent? m = some v.isNull := by
  cases v <;> cases m <;> rfl

theorem optional?_null {α : Type} (read : Document → Option α) :
    optional? m read (ofValue .null) = some none := by
  rw [optional?, isAbsent?_ofValue]
  rfl

theorem optional?_some {α : Type} {read : Document → Option α} {v : Value} {x : α}
    (found : v.isNull = false) (reads : read (ofValue v) = some x) :
    optional? m read (ofValue v) = some (some x) := by
  rw [optional?, isAbsent?_ofValue, found, reads]
  rfl

end Document

namespace Record

variable {m : Manner} {names : List String} {name : String} {fields : List (String × Value)}

theorem get?_documents :
    Fields.get? name (documents fields) = (Fields.get? name fields).map Document.ofValue := by
  induction fields with
  | nil => rfl
  | cons field rest ih =>
    rw [documents, List.map_cons, Fields.get?, Fields.get?]
    split
    · rfl
    · exact ih

theorem documents_filter (p : String → Bool) :
    (documents fields).filter (fun field => p field.1) =
      documents (fields.filter fun field => p field.1) := by
  rw [documents, documents, List.filter_map]
  rfl

theorem unrepeated_of_nodup (once : (fields.map Prod.fst).Nodup) :
    unrepeated names (documents fields) = true := by
  refine List.all_eq_true.mpr fun name _ => decide_eq_true ?_
  have apart : (documents fields).Pairwise fun f g => f.1 ≠ g.1 :=
    List.pairwise_map.mpr (List.pairwise_map.mp once)
  have ends := apart.filter fun field => decide (field.1 = name)
  cases same : (documents fields).filter fun field => decide (field.1 = name) with
  | nil => simp
  | cons f rest =>
    cases rest with
    | nil => simp
    | cons g rest =>
      have named : ∀ h ∈ f :: g :: rest, h.1 = name := by
        intro h mem
        rw [← same] at mem
        exact of_decide_eq_true (List.mem_filter.mp mem).2
      rw [same] at ends
      have other : f.1 ≠ g.1 := (List.pairwise_cons.mp ends).1 g List.mem_cons_self
      rw [named f (by simp), named g (by simp)] at other
      exact absurd rfl other

theorem ofDocument_once (once : (fields.map Prod.fst).Nodup) :
    ofDocument m names (.ofValue (.object fields)) = some ⟨m, documents fields⟩ :=
  ofDocument_object (unrepeated_of_nodup once)

@[simp] theorem string_documents :
    (Record.mk m (documents fields)).string name =
      (Fields.get? name fields).bind fun v => (Document.ofValue v).string? m := by
  rw [string, need, get?_documents]
  cases Fields.get? name fields <;> rfl

@[simp] theorem orElse_documents {α : Type} (default : α) (read : Document → Option α) :
    (Record.mk m (documents fields)).orElse name default read =
      match Fields.get? name fields with
      | some v => read (.ofValue v)
      | none => some default := by
  rw [orElse, get?_documents]
  cases Fields.get? name fields <;> rfl

end Record

/-! ## Models there and back -/

/-- A value that is nothing counts as no value. -/
def VariableModel.reread (v : VariableModel) : VariableModel :=
  { v with value := v.value.filter fun x => !x.isNull }

def VariableModel.values (v : VariableModel) : List Value := v.value.toList

namespace StateKindModel

def vars : StateKindModel → List VariableModel
  | view _ _ _ vars _ _ => vars
  | _ => []

def reread : StateKindModel → StateKindModel
  | view name redirect popup vars onRender transitions =>
    view name redirect popup (vars.map VariableModel.reread) onRender transitions
  | kind => kind

def values (kind : StateKindModel) : List Value :=
  kind.vars.flatMap VariableModel.values ++ kind.transitions.map fun t => t.attributes.toValue

end StateKindModel

namespace StateModel

def reread (s : StateModel) : StateModel := { s with kind := s.kind.reread }

def values (s : StateModel) : List Value := s.attributes.toValue :: s.kind.values

end StateModel

namespace FlowModel

def reread (m : FlowModel) : FlowModel :=
  { m with vars := m.vars.map VariableModel.reread, states := m.states.map StateModel.reread }

/-- All variables of the flow and of its views. -/
def allVars (m : FlowModel) : List VariableModel :=
  m.vars ++ m.states.flatMap fun s => s.kind.vars

/-- All values in the model: its variables', and its attributes as objects. -/
def values (m : FlowModel) : List Value :=
  m.attributes.toValue :: m.vars.flatMap VariableModel.values ++
    m.states.flatMap StateModel.values ++ m.globalTransitions.map fun t => t.attributes.toValue

end FlowModel

namespace Model

variable {m : Manner}

@[simp] theorem optional?_writeOption (s : Option String) :
    Document.optional? m (Document.string? m) (.ofValue (writeOption s)) = some s := by
  cases s with
  | none => exact Document.optional?_null m _
  | some s => exact Document.optional?_some m rfl (Document.string?_text m s)

/-! ### Actions -/

theorem actionFields_once {names : List String} {fields : List (String × Value)}
    (once : (fields.map Prod.fst).Nodup) :
    actionFields m names (.ofValue (.object fields)) = some ⟨m, Record.documents fields⟩ :=
  Record.ofDocument_once once

/-- No form of action fits what was written in a later one. -/
theorem readAction_writeAction (a : ActionModel) :
    readAction m (.ofValue (writeAction a)) = some a := by
  rw [readAction, Document.isWhole_ofValue, if_pos rfl]
  cases a with
  | named name => simp [writeAction]
  | bean name =>
    rw [writeAction, readBean, actionFields_once (by simp)]
    simp [Fields.get?]
  | evaluate expression result type =>
    rw [writeAction, readBean, readEvaluate, actionFields_once (by simp),
      actionFields_once (by simp)]
    simp [Record.optional, Fields.get?]
  | set target value type =>
    rw [writeAction, readBean, readEvaluate, readSet, actionFields_once (by simp),
      actionFields_once (by simp), actionFields_once (by simp)]
    simp [Record.optional, Fields.get?]

theorem listOf?_writeActions (actions : List ActionModel) :
    Document.listOf? m (readAction m) (.ofValue (writeActions actions)) = some actions :=
  Document.listOf?_map_self m fun a _ => readAction_writeAction a

/-! ### Records -/

theorem readMapping_writeMapping (x : MappingModel) :
    readMapping m (.ofValue (writeMapping x)) = some x := by
  rw [writeMapping, readMapping, Record.ofDocument_once (by simp)]
  simp [Record.optional, Record.bool, Fields.get?]

theorem readBranch_writeBranch (b : BranchModel) :
    readBranch m (.ofValue (writeBranch b)) = some b := by
  rw [writeBranch, readBranch, Record.ofDocument_once (by simp)]
  simp [Record.optional, Fields.get?]

theorem readHandler_writeHandler (h : HandlerModel) :
    readHandler m (.ofValue (writeHandler h)) = some h := by
  rw [writeHandler, readHandler, Record.ofDocument_once (by simp)]
  simp [Fields.get?]

theorem readVariable_writeVariable (v : VariableModel) (sorted : ∀ x ∈ v.values, x.Sorted) :
    readVariable m (.ofValue (writeVariable v)) = some v.reread := by
  obtain ⟨name, value, expression⟩ := v
  have held : Document.optional? m (Document.toValue? m) (.ofValue (value.getD .null)) =
      some (value.filter fun x => !x.isNull) := by
    cases value with
    | none => exact Document.optional?_null m _
    | some x =>
      cases nothing : x.isNull with
      | true =>
        obtain rfl := Value.eq_null_of_isNull nothing
        exact Document.optional?_null m _
      | false =>
        have reads := Document.toValue?_ofValue m x (sorted x (by simp [VariableModel.values]))
        rw [Option.getD_some, Document.optional?_some m nothing reads, Option.filter, nothing]
        rfl
  rw [writeVariable, readVariable, Record.ofDocument_once (by simp)]
  simp [Record.optional, Fields.get?, held, VariableModel.reread]

theorem readHistory_name (h : History) :
    readHistory m (.ofValue (.text h.name)) = some h := by
  have word : (Document.ofValue (.text h.name)).choice? m (History.all.map History.name) =
      some h.name := Document.string?_text m h.name
  rw [readHistory, word]
  cases h <;> rfl

theorem optional?_history (history : Option History) :
    Document.optional? m (readHistory m) (.ofValue (writeOption (history.map History.name))) =
      some history := by
  cases history with
  | none => exact Document.optional?_null m _
  | some h => exact Document.optional?_some m rfl (readHistory_name h)

theorem readTransition_writeTransition (t : TransitionModel)
    (sorted : t.attributes.toValue.Sorted) :
    readTransition m (.ofValue (writeTransition t)) = some t := by
  rw [writeTransition, readTransition, Record.ofDocument_once (by simp)]
  simp [Record.optional, Record.list, Record.attributes, Fields.get?, listOf?_writeActions,
    optional?_history, Document.attributes?_ofValue sorted]

/-! ### States -/

theorem listOf?_writeMappings (mappings : List MappingModel) :
    Document.listOf? m (readMapping m) (.ofValue (writeMappings mappings)) = some mappings :=
  Document.listOf?_map_self m fun x _ => readMapping_writeMapping x

theorem listOf?_writeBranches (branches : List BranchModel) :
    Document.listOf? m (readBranch m) (.ofValue (.list (branches.map writeBranch))) =
      some branches :=
  Document.listOf?_map_self m fun b _ => readBranch_writeBranch b

theorem listOf?_writeHandlers (handlers : List HandlerModel) :
    Document.listOf? m (readHandler m) (.ofValue (writeHandlers handlers)) = some handlers :=
  Document.listOf?_map_self m fun h _ => readHandler_writeHandler h

theorem listOf?_writeVariables (vars : List VariableModel)
    (sorted : ∀ v ∈ vars, ∀ x ∈ v.values, x.Sorted) :
    Document.listOf? m (readVariable m) (.ofValue (writeVariables vars)) =
      some (vars.map VariableModel.reread) :=
  Document.listOf?_map m fun v mem => readVariable_writeVariable v (sorted v mem)

theorem listOf?_writeTransitions (transitions : List TransitionModel)
    (sorted : ∀ t ∈ transitions, t.attributes.toValue.Sorted) :
    Document.listOf? m (readTransition m) (.ofValue (writeTransitions transitions)) =
      some transitions :=
  Document.listOf?_map_self m fun t mem => readTransition_writeTransition t (sorted t mem)

/-- The fields of a kind, wherever they stand among others. -/
theorem readKind_of_fields {kind : StateKindModel} {fields : List (String × Value)}
    (once : (fields.map Prod.fst).Nodup) (sorted : ∀ x ∈ kind.values, x.Sorted)
    (holds : ∀ f ∈ kindFields kind, Fields.get? f.1 fields = some f.2) :
    readKind m (Record.documents fields) = some kind.reread := by
  have whole : (Record.documents fields).all (fun field => field.2.isWhole) = true := by
    simp [Record.documents, Document.isWhole_ofValue]
  have once (names : List String) : Record.unrepeated names (Record.documents fields) = true :=
    Record.unrepeated_of_nodup once
  have type : (Fields.get? "type" (Record.documents fields)).bind (Document.nameOf? m kindNames) =
      some kind.name := by
    have written : Fields.get? "type" fields = some (.text kind.name) :=
      holds ("type", .text kind.name) (by cases kind <;> simp [kindFields, StateKindModel.name])
    rw [Record.get?_documents, written]
    exact Document.nameOf?_text m kindNames kind.name
  simp only [StateKindModel.values, List.forall_mem_append, List.forall_mem_flatMap,
    List.forall_mem_map] at sorted
  obtain ⟨held, attributes⟩ := sorted
  rw [readKind, whole, once, type]
  cases kind with
  | view name redirect popup vars onRender transitions =>
    simp only [kindFields, List.forall_mem_cons] at holds
    simp [StateKindModel.name, Record.ofNamed, once, readView, Record.optional, Record.bool,
      Record.list, holds, listOf?_writeActions, listOf?_writeVariables vars held,
      listOf?_writeTransitions transitions attributes, StateKindModel.reread]
  | action actions transitions =>
    simp only [kindFields, List.forall_mem_cons] at holds
    simp [StateKindModel.name, Record.ofNamed, once, readActionState, Record.list, holds,
      listOf?_writeActions, listOf?_writeTransitions transitions attributes, StateKindModel.reread]
  | decision branches =>
    simp only [kindFields, List.forall_mem_cons] at holds
    simp [StateKindModel.name, Record.ofNamed, once, Record.list, holds, listOf?_writeBranches,
      StateKindModel.reread]
  | subflow flow inputs outputs transitions =>
    simp only [kindFields, List.forall_mem_cons] at holds
    simp [StateKindModel.name, Record.ofNamed, once, readSubflow, Record.list, holds,
      listOf?_writeMappings, listOf?_writeTransitions transitions attributes, StateKindModel.reread]
  | final view outputs =>
    simp only [kindFields, List.forall_mem_cons] at holds
    simp [StateKindModel.name, Record.ofNamed, once, readFinal, Record.optional, Record.list, holds,
      listOf?_writeMappings, StateKindModel.reread]

def commonFields (s : StateModel) : List (String × Value) :=
  [("attributes", s.attributes.toValue), ("exception_handlers", writeHandlers s.handlers),
    ("id", .text s.id), ("on_entry", writeActions s.onEntry), ("on_exit", writeActions s.onExit)]

/-- The fields of a state and those of its kind do not get in each other's way. -/
theorem nodup_names (s : StateModel) :
    ((commonFields s ++ kindFields s.kind).map Prod.fst).Nodup := by
  cases s.kind <;> simp [commonFields, kindFields]

theorem not_mem_stateFields {kind : StateKindModel} {f : String × Value}
    (mem : f ∈ kindFields kind) : f.1 ∉ stateFields := by
  have apart : ∀ f ∈ kindFields kind, f.1 ∉ stateFields := by
    cases kind <;> simp [kindFields, stateFields]
  exact apart f mem

theorem readState_writeState (s : StateModel) (sorted : ∀ x ∈ s.values, x.Sorted) :
    readState m (.ofValue (writeState s)) = some s.reread := by
  let fields := Fields.ofPairs (commonFields s ++ kindFields s.kind)
  have distinct : (fields.map Prod.fst).Nodup := Fields.nodup_of_sorted (Fields.sorted_ofPairs _)
  have holds : ∀ f ∈ commonFields s ++ kindFields s.kind, Fields.get? f.1 fields = some f.2 :=
    fun f mem => Fields.get?_ofPairs (nodup_names s) mem
  obtain ⟨common, own⟩ := List.forall_mem_append.mp holds
  have once : Record.unrepeated stateFields (Record.documents fields) = true :=
    Record.unrepeated_of_nodup distinct
  have kind : readKind m.settle
      ((Record.documents fields).filter fun field => field.1 ∉ stateFields) =
      some s.kind.reread := by
    rw [Record.documents_filter fun name => name ∉ stateFields]
    refine readKind_of_fields (distinct.sublist (List.filter_sublist.map _))
      (fun x held => sorted x (List.mem_cons_of_mem _ held)) fun f mem => ?_
    rw [Fields.get?_filter (not_mem_stateFields mem), own f mem]
  have opened : ((Document.ofValue (writeState s)).fields? m).bind (Record.named? m []) =
      some (Record.documents fields) := Record.named?_ofFields
  have attributes : s.attributes.toValue.Sorted := sorted _ List.mem_cons_self
  simp only [commonFields, List.forall_mem_cons] at common
  rw [readState, opened, Option.bind_some, Record.ofNamed, once, if_pos rfl, Option.bind_some, kind]
  simp [Record.list, Record.attributes, common, listOf?_writeActions, listOf?_writeHandlers,
    Document.attributes?_ofValue attributes, StateModel.reread]

theorem listOf?_writeStates (states : List StateModel)
    (sorted : ∀ s ∈ states, ∀ x ∈ s.values, x.Sorted) :
    Document.listOf? m (readState m) (.ofValue (.list (states.map writeState))) =
      some (states.map StateModel.reread) :=
  Document.listOf?_map m fun s mem => readState_writeState s (sorted s mem)

end Model

namespace FlowModel

open Model

theorem ofDocument_toValue {manner : Manner} (m : FlowModel)
    (sorted : ∀ x ∈ m.values, x.Sorted) :
    ofDocument manner (.ofValue m.toValue) = some m.reread := by
  simp only [values, List.forall_mem_append, List.forall_mem_cons, List.forall_mem_flatMap,
    List.forall_mem_map] at sorted
  obtain ⟨⟨⟨attributes, vars⟩, states⟩, transitions⟩ := sorted
  rw [toValue, ofDocument, Record.ofDocument_once (by simp)]
  simp [Record.optional, Record.list, Record.attributes, Fields.get?, listOf?_writeActions,
    listOf?_writeMappings, listOf?_writeHandlers, listOf?_writeVariables m.vars vars,
    listOf?_writeStates m.states states, listOf?_writeTransitions m.globalTransitions transitions,
    Document.attributes?_ofValue attributes, reread]

end FlowModel

/-! ### What stays as it is -/

theorem VariableModel.reread_eq_iff {v : VariableModel} :
    v.reread = v ↔ v.value ≠ some .null := by
  obtain ⟨name, value, expression⟩ := v
  cases value with
  | none => simp [reread]
  | some x => cases x <;> simp [reread, Value.isNull]

theorem map_eq_self_iff {α : Type} {f : α → α} {items : List α} :
    items.map f = items ↔ ∀ x ∈ items, f x = x := by
  have same := List.map_inj_left (f := f) (g := id) (l := items)
  rwa [List.map_id] at same

theorem StateModel.reread_eq_iff {s : StateModel} :
    s.reread = s ↔ ∀ v ∈ s.kind.vars, v.value ≠ some .null := by
  obtain ⟨id, kind, onEntry, onExit, handlers, attributes⟩ := s
  cases kind with
  | view name redirect popup vars onRender transitions =>
    simp [reread, StateKindModel.reread, StateKindModel.vars, map_eq_self_iff,
      VariableModel.reread_eq_iff]
  | _ => simp [reread, StateKindModel.reread, StateKindModel.vars]

theorem FlowModel.reread_eq_iff {m : FlowModel} :
    m.reread = m ↔ ∀ v ∈ m.allVars, v.value ≠ some .null := by
  have parts : m.reread = m ↔ m.vars.map VariableModel.reread = m.vars ∧
      m.states.map StateModel.reread = m.states := by
    cases m
    simp [reread]
  rw [parts, map_eq_self_iff, map_eq_self_iff, allVars]
  simp only [VariableModel.reread_eq_iff, StateModel.reread_eq_iff, List.forall_mem_append,
    List.forall_mem_flatMap]

/-- **A model is read back as it was written, unless the value of a variable is nothing.** The
objects in it have their fields sorted, as all maps do. -/
theorem written_model_reads_back (m : FlowModel) (sorted : ∀ x ∈ m.values, x.Sorted) :
    FlowModel.ofDocument .json (.ofValue m.toValue) = some m ↔
      ∀ v ∈ m.allVars, v.value ≠ some .null := by
  rw [FlowModel.ofDocument_toValue m sorted, Option.some_inj, FlowModel.reread_eq_iff]

def cloakroom : FlowModel :=
  { id := some "cloakroom"
    start := none
    attributes := ⟨[("floor", .list [.int 2, .null])]⟩
    vars := [⟨"ticket", some (.object [("number", .int 7)]), none⟩, ⟨"coat", none, some "first"⟩]
    inputs := [⟨"guest", none, some "string", true⟩]
    outputs := []
    onStart := [.named "open", .bean "desk"]
    onEnd := []
    states := [
      ⟨"hall", .view none true false [⟨"lamp", some (.text "on"), none⟩]
        [.evaluate "coats" (some "viewScope.coats") none]
        [⟨some "hand in", none, some "check", [.set "ticket" "8" (some "int")], some .discard,
          ⟨[("queue", .bool true)]⟩⟩], [], [.named "greet"], [⟨"*", "gone"⟩], .empty⟩,
      ⟨"check", .decision [⟨"ticket > 7", "wardrobe", some "sweep"⟩], [], [], [], .empty⟩,
      ⟨"wardrobe", .subflow "coats" [] [⟨"coat", some "coat", none, false⟩] [], [], [], [], .empty⟩,
      ⟨"sweep", .action [.bean "broom"] [], [], [], [], .empty⟩,
      ⟨"gone", .final (some "street") [], [], [], [], .empty⟩]
    globalTransitions := []
    handlers := [] }

theorem cloakroom_reads_back :
    FlowModel.ofDocument .json (.ofValue cloakroom.toValue) = some cloakroom := by
  have sorted : ∀ x ∈ cloakroom.values, x.Sorted := by
    simp [cloakroom, FlowModel.values, VariableModel.values, StateModel.values,
      StateKindModel.values, StateKindModel.vars, StateKindModel.transitions, Attributes.toValue,
      Attributes.empty, Value.Sorted, Value.AreSorted, Value.FieldsSorted, Fields.Sorted, Value.int]
  exact (written_model_reads_back cloakroom sorted).mpr (by
    simp [cloakroom, FlowModel.allVars, StateKindModel.vars])

end Parley
