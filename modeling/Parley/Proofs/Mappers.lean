import Parley.Mapping
import Parley.Proofs.Scopes
import Parley.Proofs.Spelling

/-!
# Parley.Proofs.Mappers

What a mapper does to its target. Its mappings come one after the other, each on the target that the
one before has left. One that fails leaves it as it is, so the target comes to what the successful
ones alone make of it. A required value that is there is still there once it is converted.

* `convert_isBlank`: conversion makes no value blank.
* `Mapping.Comes`: what one mapping comes to. `Mapper.Course`: what all of them do.
* `Mapper.overwrite_eq`: done in place, it is the same.
* `mapper_applies_successes`: the results of a mapper, and its target.
-/

namespace Parley

/-! ## Conversion keeps what is there -/

namespace Double

theorem positional_ne_nil (digits : List Char) (before : Int) : positional digits before ≠ [] := by
  unfold positional
  by_cases small : before ≤ 0
  · simp [small]
  · by_cases short : digits.length ≤ before.toNat <;> simp [small, short]

theorem scientific_ne_nil (digits : List Char) (power : Int) : scientific digits power ≠ [] := by
  simp [scientific]

theorem text_ne_empty (x : Double) : x.text ≠ "" := by
  unfold text
  by_cases zero : x.isZero
  · simp [zero]
  · simp only [if_neg zero]
    intro none
    -- There may be no sign, but there are digits behind it.
    have chars := (List.append_eq_nil_iff.mp (String.ofList_eq_empty_iff.mp none)).2
    split at chars
    · exact positional_ne_nil _ _ chars
    · exact scientific_ne_nil _ _ chars

end Double

theorem Number.text_ne_empty (n : Number) : n.text ≠ "" := by
  cases n with
  | float x => exact x.text_ne_empty
  | int i =>
    intro none
    have chars : (toString i).toList = [] := by
      rw [show toString i = "" from none]
      rfl
    rw [Number.toList_toString] at chars
    split at chars
    · cases chars
    · exact Nat.toDigits_ne_nil chars

namespace Value

theorem json_ne_empty (v : Value) : v.json ≠ "" := by
  rw [json, ne_eq, String.ofList_eq_empty_iff]
  cases v with
  | null | text | list | object => simp [write, Json.quote]
  | bool b => cases b <;> simp [write]
  | number n => simpa [write] using n.text_ne_empty

end Value

namespace Conversion

theorem toInteger?_isBlank {v w : Value} (ok : toInteger? v = some w) : w.isBlank = false := by
  cases v <;> simp only [toInteger?, Option.map_eq_some_iff, reduceCtorEq, Option.some.injEq] at ok
  case number => obtain ⟨i, -, rfl⟩ := ok; rfl
  case text => obtain ⟨i, -, rfl⟩ := ok; rfl
  case bool => subst ok; rfl

theorem toNumber?_isBlank {v w : Value} (ok : toNumber? v = some w) : w.isBlank = false := by
  cases v <;> simp only [toNumber?, Option.map_eq_some_iff, reduceCtorEq] at ok
  case number => obtain ⟨x, -, rfl⟩ := ok; rfl
  case text => obtain ⟨x, -, rfl⟩ := ok; rfl

theorem toBoolean?_isBlank {v w : Value} (ok : toBoolean? v = some w) : w.isBlank = false := by
  cases v <;> simp only [toBoolean?, Option.map_eq_some_iff, reduceCtorEq, Option.some.injEq] at ok
  case bool => subst ok; rfl
  case number => subst ok; rfl
  case text => obtain ⟨b, -, rfl⟩ := ok; rfl

theorem toText_isBlank {v : Value} (full : v.isBlank = false) : (toText v).isBlank = false := by
  have json (v : Value) : (Value.text v.json).isBlank = false := by
    simpa [Value.isBlank] using v.json_ne_empty
  cases v with
  | text s => exact full
  | null | bool | number | list | object => exact json _

theorem of_orInvalid_eq_ok {v w : Value} {target : String} {converted : Option Value}
    (ok : orInvalid v target converted = .ok w) : converted = some w := by
  cases converted with
  | none => cases ok
  | some x => cases ok; rfl

theorem convertTo_isBlank {type : ValueType} {v w : Value} (ok : convertTo type v = .ok w)
    (full : v.isBlank = false) : w.isBlank = false := by
  cases type with
  | text =>
    cases ok
    exact toText_isBlank full
  | integer => exact toInteger?_isBlank (of_orInvalid_eq_ok ok)
  | number => exact toNumber?_isBlank (of_orInvalid_eq_ok ok)
  | boolean => exact toBoolean?_isBlank (of_orInvalid_eq_ok ok)

end Conversion

theorem convert_isBlank {type : String} {v w : Value} (ok : convert type v = .ok w)
    (full : v.isBlank = false) : w.isBlank = false := by
  rw [convert] at ok
  split at ok
  · cases ok
  · -- Nothing converts to nothing, whatever the type; but what is there is not nothing.
    have there : v.isNull = false := by cases v <;> first | rfl | cases full
    rw [there] at ok
    exact Conversion.convertTo_isBlank ok full

/-! ## Mappers in place -/

/-- Things whose properties are written in place, all of a write or nothing. -/
class Writable (τ : Type) [Properties τ] where
  overwrite : τ → Path → Value → Write τ
  overwrite_eq (target : τ) (path : Path) (new : Value) :
    overwrite target path new = .whole (Properties.setProperty target path new)

instance : Writable Attributes := ⟨Attributes.overwrite, Attributes.overwrite_eq⟩

instance : Writable Context := ⟨Context.overwrite, Context.overwrite_eq⟩

variable {σ τ : Type} [Properties σ] [Properties τ]

/-- An expression assigned to in place. -/
def Expression.overwrite [Writable τ] (e : Expression) (new : Value) (target : τ) : Write τ :=
  match e.target? with
  | some path => Writable.overwrite target path new
  | none => ⟨.error (.notSettable e.source), none⟩

theorem Expression.overwrite_eq [Writable τ] (e : Expression) (new : Value) (target : τ) :
    e.overwrite new target = .whole (e.assign new target) := by
  rw [overwrite, assign]
  cases e.target? with
  | none => rfl
  | some path => exact Writable.overwrite_eq target path new

namespace Mapping

/-- A mapping onto a target in place: the outcome, and the target as the mapping leaves it. -/
def overwrite [Writable τ] (m : Mapping) (source : σ) (target : τ) : MappingResult × τ :=
  let result (outcome : Except MappingError Value) : MappingResult :=
    ⟨m.source.source, m.target.source, outcome⟩
  match m.valueFrom source with
  | .error e => (result (.error e), target)
  | .ok value =>
    let w := m.target.overwrite value target
    match w.outcome with
    | .error e => (result (.error (.targetAccess m.target.source e.message)), w.after target)
    | .ok () => (result (.ok value), w.after target)

theorem overwrite_eq [Writable τ] (m : Mapping) (source : σ) (target : τ) :
    m.overwrite source target = m.run source target := by
  rw [overwrite, run, apply]
  cases m.valueFrom source with
  | error e => rfl
  | ok value =>
    simp only [Expression.overwrite_eq]
    cases m.target.assign value target <;> rfl

end Mapping

namespace Mapper

/-- The mappings one after the other, each on the target as the one before has left it. -/
def overwrite [Writable τ] (source : σ) : Mapper → τ → List MappingResult × τ
  | [], target => ([], target)
  | m :: rest, target =>
    let (result, target) := m.overwrite source target
    let (results, target) := overwrite source rest target
    (result :: results, target)

theorem overwrite_eq [Writable τ] (source : σ) (mapper : Mapper) (target : τ) :
    overwrite source mapper target = run source mapper target := by
  induction mapper generalizing target with
  | nil => rfl
  | cons m rest ih => simp only [overwrite, run, Mapping.overwrite_eq, ih]

end Mapper

/-! ## What becomes of the mappings -/

/-- A mapping takes a value from the source: there if it has to be, and of the type asked for. -/
structure Mapping.Carries (m : Mapping) (source : σ) (value : Value) : Prop where
  present : m.required = true → (m.source.eval source).isBlank = false
  converted : match m.type with
    | none => value = m.source.eval source
    | some type => convert type (m.source.eval source) = .ok value

/-- What a mapping comes to, with the target that it finds and the one that it leaves. It fails in
three ways, and then it leaves the target that it has found. -/
inductive Mapping.Comes (m : Mapping) (source : σ) (found : τ) :
    Except MappingError Value → τ → Prop where
  | missing (required : m.required = true) (blank : (m.source.eval source).isBlank = true) :
      Comes m source found (.error (.required m.source.source m.target.source)) found
  | unconverted {type : String} {e : ConversionError}
      (present : m.required = true → (m.source.eval source).isBlank = false)
      (asked : m.type = some type) (fails : convert type (m.source.eval source) = .error e) :
      Comes m source found (.error (.typeConversion m.source.source type e.message)) found
  | unwritable {value : Value} {e : EvaluationError} (carries : m.Carries source value)
      (fails : m.target.assign value found = .error e) :
      Comes m source found (.error (.targetAccess m.target.source e.message)) found
  | written {value : Value} {left : τ} (carries : m.Carries source value)
      (writes : m.target.assign value found = .ok left) :
      Comes m source found (.ok value) left

/-- The mappings come to these results one after the other, each on what the one before left. -/
inductive Mapper.Course (source : σ) : Mapper → τ → List MappingResult → τ → Prop where
  | nil {target : τ} : Course source [] target [] target
  | cons {m : Mapping} {rest : Mapper} {found left after : τ}
      {outcome : Except MappingError Value} {results : List MappingResult}
      (comes : m.Comes source found outcome left) (later : Course source rest left results after) :
      Course source (m :: rest) found
        (⟨m.source.source, m.target.source, outcome⟩ :: results) after

namespace Mapping

theorem valueFrom_cases (m : Mapping) (source : σ) :
    (m.required = true ∧ (m.source.eval source).isBlank = true ∧
        m.valueFrom source = .error (.required m.source.source m.target.source)) ∨
      ((m.required = true → (m.source.eval source).isBlank = false) ∧
        ∃ type e, m.type = some type ∧ convert type (m.source.eval source) = .error e ∧
          m.valueFrom source = .error (.typeConversion m.source.source type e.message)) ∨
      ∃ value, m.Carries source value ∧ m.valueFrom source = .ok value := by
  by_cases gap : (m.required && (m.source.eval source).isBlank) = true
  · obtain ⟨required, blank⟩ := Bool.and_eq_true_iff.mp gap
    exact .inl ⟨required, blank, by simp only [valueFrom, if_pos gap]⟩
  · have present : m.required = true → (m.source.eval source).isBlank = false := by
      intro required
      simpa [required] using gap
    cases asked : m.type with
    | none =>
      have carries : m.Carries source (m.source.eval source) := ⟨present, by rw [asked]⟩
      exact .inr (.inr ⟨_, carries, by simp only [valueFrom, if_neg gap, asked]⟩)
    | some type =>
      cases came : convert type (m.source.eval source) with
      | error e =>
        exact .inr (.inl ⟨present, type, e, rfl, came, by
          simp only [valueFrom, if_neg gap, asked, came]⟩)
      | ok value =>
        have carries : m.Carries source value := ⟨present, by rw [asked]; exact came⟩
        exact .inr (.inr ⟨value, carries, by simp only [valueFrom, if_neg gap, asked, came]⟩)

/-- A required value is still there once it is converted. -/
theorem Carries.isBlank {m : Mapping} {source : σ} {value : Value} (h : m.Carries source value)
    (required : m.required = true) : value.isBlank = false := by
  obtain ⟨present, converted⟩ := h
  split at converted
  · rw [converted]
    exact present required
  · exact convert_isBlank converted (present required)

theorem run_comes (m : Mapping) (source : σ) (target : τ) :
    ∃ outcome left, m.Comes source target outcome left ∧
      m.run source target = (⟨m.source.source, m.target.source, outcome⟩, left) := by
  rcases m.valueFrom_cases source with ⟨required, blank, failed⟩ |
    ⟨present, type, e, asked, fails, failed⟩ | ⟨value, carries, read⟩
  · exact ⟨_, _, .missing required blank, by simp only [run, apply, failed]⟩
  · exact ⟨_, _, .unconverted present asked fails, by simp only [run, apply, failed]⟩
  · cases wrote : m.target.assign value target with
    | error e => exact ⟨_, _, .unwritable carries wrote, by simp only [run, apply, read, wrote]⟩
    | ok left => exact ⟨_, _, .written carries wrote, by simp only [run, apply, read, wrote]⟩

end Mapping

namespace Mapper

theorem run_course (source : σ) (mapper : Mapper) (target : τ) :
    Course source mapper target (run source mapper target).1 (run source mapper target).2 := by
  induction mapper generalizing target with
  | nil => exact .nil
  | cons m rest ih =>
    obtain ⟨outcome, left, comes, ran⟩ := m.run_comes source target
    simp only [run, ran]
    exact .cons comes (ih left)

/-- The assignments of the mappings that succeeded, in order. -/
def assignments : Mapper → List MappingResult → List (Expression × Value)
  | m :: rest, r :: results =>
    match r.outcome with
    | .ok value => (m.target, value) :: assignments rest results
    | .error _ => assignments rest results
  | _, _ => []

namespace Course

variable {source : σ} {mapper : Mapper} {target after : τ} {results : List MappingResult}

theorem named (h : Course source mapper target results after) :
    List.Forall₂ (fun m r => r.source = m.source.source ∧ r.target = m.target.source)
      mapper results := by
  induction h with
  | nil => exact .nil
  | cons _ _ ih => exact .cons ⟨rfl, rfl⟩ ih

/-- The assignments that succeeded lead to the target of the whole without the others. -/
theorem assigned (h : Course source mapper target results after) :
    (assignments mapper results).foldlM (fun found a => a.1.assign a.2 found) target =
      .ok after := by
  induction h with
  | nil => rfl
  | cons comes _ ih =>
    cases comes with
    | missing | unconverted | unwritable => exact ih
    | written _ writes =>
      rw [assignments, List.foldlM_cons, writes]
      exact ih

theorem filled (h : Course source mapper target results after) :
    List.Forall₂ (fun m r => ∀ value, r.outcome = .ok value → m.required = true →
      value.isBlank = false) mapper results := by
  induction h with
  | nil => exact .nil
  | cons comes _ ih =>
    refine .cons (fun value ok required => ?_) ih
    cases comes with
    | missing | unconverted | unwritable => cases ok
    | written carries =>
      cases ok
      exact carries.isBlank required

end Course

/-- What a mapper should do to a target. -/
structure Exact [Writable τ] (mapper : Mapper) (source : σ) (target : τ)
    (results : List MappingResult) (after : τ) : Prop where
  /-- In place it comes to the same results and the same target. -/
  inPlace : overwrite source mapper target = (results, after)
  /-- Each mapping has a result, in order; one that fails leaves the target as it found it. -/
  course : Course source mapper target results after
  named : List.Forall₂ (fun m r => r.source = m.source.source ∧ r.target = m.target.source)
    mapper results
  /-- The successful assignments alone lead to the same target. -/
  assigned : (assignments mapper results).foldlM (fun found a => a.1.assign a.2 found) target =
    .ok after
  errors : MappingResult.errors results ≠ [] ↔ ∃ r ∈ results, ∃ e, r.outcome = .error e
  /-- Without errors all has been written, and nothing blank where a value is required. -/
  filled : MappingResult.errors results = [] → List.Forall₂ (fun m r =>
    ∃ value, r.outcome = .ok value ∧ (m.required = true → value.isBlank = false)) mapper results

theorem errors_ne_nil_iff {results : List MappingResult} :
    MappingResult.errors results ≠ [] ↔ ∃ r ∈ results, ∃ e, r.outcome = .error e := by
  have failed (r : MappingResult) : (∃ e, r.error? = some e) ↔ ∃ e, r.outcome = .error e := by
    unfold MappingResult.error?
    split <;> simp [*]
  simp only [← failed]
  constructor
  · intro some
    obtain ⟨e, mem⟩ := List.exists_mem_of_ne_nil _ some
    obtain ⟨r, there, found⟩ := List.mem_filterMap.mp mem
    exact ⟨r, there, e, found⟩
  · rintro ⟨r, there, e, found⟩
    exact List.ne_nil_of_mem (List.mem_filterMap.mpr ⟨r, there, found⟩)

theorem run_exact [Writable τ] (source : σ) (mapper : Mapper) (target : τ) :
    Exact mapper source target (run source mapper target).1 (run source mapper target).2 := by
  have course := run_course source mapper target
  refine ⟨overwrite_eq source mapper target, course, course.named, course.assigned,
    errors_ne_nil_iff, fun none => ?_⟩
  have succeeded : ∀ r ∈ (run source mapper target).1, ∃ value, r.outcome = .ok value := by
    intro r mem
    cases came : r.outcome with
    | ok value => exact ⟨value, rfl⟩
    | error e => exact absurd none (errors_ne_nil_iff.mpr ⟨r, mem, e, came⟩)
  obtain ⟨length, each⟩ := List.forall₂_iff_zip.mp course.filled
  refine List.forall₂_iff_zip.mpr ⟨length, fun {m r} pair => ?_⟩
  obtain ⟨value, ok⟩ := succeeded r (List.of_mem_zip pair).2
  exact ⟨value, ok, each pair value ok⟩

end Mapper

/-- **A mapper applies exactly its successful mappings.** It comes to one result for each mapping,
in order, and to the target that the assignments of the successful ones make, one after the other. A
mapping that fails, for a value that is missing, does not convert or cannot be written, leaves the
target as it finds it, and those behind it go on. There are errors exactly if a mapping fails; and
if there are none, no required value that was written is nothing or empty. -/
theorem mapper_applies_successes (source : σ) (mapper : Mapper) :
    (∀ target : Attributes,
      let (results, after) := mapper.run source target
      mapper.Exact source target results after) ∧
    ∀ target : Context,
      let (results, after) := mapper.run source target
      mapper.Exact source target results after :=
  ⟨fun target => mapper.run_exact source target, fun target => mapper.run_exact source target⟩

/-- The second of three mappings finds a text in its way. -/
example :
    let copy (path : Path) : Mapping :=
      ⟨⟨"", .bare (.literal (.text "x"))⟩, ⟨"", .bare (.path path)⟩, none, true⟩
    let (results, after) :=
      Mapper.run Attributes.empty [copy ["a"], copy ["a", "b"], copy ["c"]] Attributes.empty
    results.map (·.outcome.isOk) = [true, false, true] ∧
      after.fields = [("a", .text "x"), ("c", .text "x")] :=
  ⟨rfl, rfl⟩

end Parley
