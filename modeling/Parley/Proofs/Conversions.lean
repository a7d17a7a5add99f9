import Parley.Conversion
import Parley.Proofs.Reals

/-!
# Parley.Proofs.Conversions

Conversion of numbers to integers. A number that is an integer becomes the nearest one of the signed
range, also where an unsigned one has been rounded to a double on the way; any other is refused.

* `Number.value`: the number that is meant.
* `Number.integerOf_of_whole`: what a whole number becomes.
* `integer_conversion_exact_iff`: when nothing is changed.
-/

namespace Parley

namespace Number

/-- The number. -/
def value : Number → ℚ
  | int i => i
  | float x => x.value

variable {n : Number} {i w : ℤ} {x : Double}

theorem clamp64_of_fits (fits : Fits64 i) : clamp64 i = i := by
  obtain ⟨low, high⟩ := fits
  unfold clamp64
  omega

theorem clamp64_of_le (large : 0x8000000000000000 ≤ i) : clamp64 i = 0x7fffffffffffffff := by
  unfold clamp64
  omega

theorem fits64_clamp64 (i : ℤ) : Fits64 (clamp64 i) := by
  unfold Fits64 clamp64
  omega

/-- Integers beyond the signed range are read as doubles beyond it. -/
theorem le_value_of_le (made : Double.ofInt? i = some x) (large : 0x8000000000000000 ≤ i) :
    (0x8000000000000000 : ℚ) ≤ x.value := by
  have least : Double.ofInt? 0x8000000000000000 = some ⟨false, 2 ^ 52, 11, by decide⟩ := by
    decide +kernel
  have same : (⟨false, 2 ^ 52, 11, by decide⟩ : Double).value = 0x8000000000000000 := by
    norm_num [Double.value, Double.magnitude]
  exact same ▸ Double.value_mono least made large

/-- A number that is an integer comes to the nearest one of the signed range. -/
theorem integerOf_of_whole (document : n.InDocument) (whole : n.value = w) :
    Conversion.integerOf n = some (clamp64 w) := by
  cases n with
  | int i =>
    obtain rfl : i = w := Int.cast_injective whole
    by_cases fits : Fits64 i
    · rw [Conversion.integerOf, if_pos fits, clamp64_of_fits fits]
    · -- It is an unsigned one, and so is the integer that its double is.
      have large : 0x8000000000000000 ≤ i := by
        by_contra small
        exact fits ⟨document.1, not_le.mp small⟩
      obtain ⟨x, made⟩ := exists_toDouble? document
      have double : Double.ofInt? i = some x := made
      obtain ⟨k, value⟩ := Double.exists_int_value double
      have beyond : 0x8000000000000000 ≤ k := by
        have above := le_value_of_le double large
        rw [value] at above
        exact_mod_cast above
      rw [Conversion.integerOf, if_neg fits, double, Option.bind_some,
        Double.whole?_eq_some_iff.mpr value, Option.map_some, clamp64_of_le beyond,
        clamp64_of_le large]
  | float x =>
    rw [Conversion.integerOf, Double.whole?_eq_some_iff.mpr whole, Option.map_some]

theorem integerOf_of_not_whole (broken : ¬ ∃ w : ℤ, n.value = w) :
    Conversion.integerOf n = none := by
  cases n with
  | int i => exact absurd ⟨i, rfl⟩ broken
  | float x =>
    have none : x.whole? = none := by
      rw [Option.eq_none_iff_forall_ne_some]
      intro w found
      exact broken ⟨w, Double.whole?_eq_some_iff.mp found⟩
    rw [Conversion.integerOf, none, Option.map_none]

end Number

variable {name : String} {n : Number}

theorem convert_integer (named : Text.lower name ∈ ["integer", "int", "long"]) :
    convert name (.number n) =
      Conversion.orInvalid (.number n) "integer" ((Conversion.integerOf n).map .int) := by
  have type : ValueType.ofName? name = some .integer := by
    unfold ValueType.ofName?
    simp only [List.mem_cons, List.not_mem_nil, or_false] at named
    rcases named with same | same | same <;> rw [same] <;> rfl
  rw [convert, type]
  rfl

open Number in
/-- **Conversion to an integer changes no number, or fails, but for integers out of range.** These
come to the end of the range. -/
theorem integer_conversion_exact_iff (named : Text.lower name ∈ ["integer", "int", "long"])
    (document : n.InDocument) :
    (((∃ j : ℤ, convert name (.number n) = .ok (.int j) ∧ (j : ℚ) = n.value) ∨
        convert name (.number n) = .error (.invalidValue n.text "integer")) ↔
      ¬ ∃ w : ℤ, n.value = w ∧ ¬ Fits64 w) ∧
    (∀ w : ℤ, n.value = w → convert name (.number n) = .ok (.int (clamp64 w))) ∧
    ((¬ ∃ w : ℤ, n.value = w) →
      convert name (.number n) = .error (.invalidValue n.text "integer")) := by
  have exact (w : ℤ) (whole : n.value = w) : convert name (.number n) = .ok (.int (clamp64 w)) := by
    rw [convert_integer named, integerOf_of_whole document whole]
    rfl
  have refused (broken : ¬ ∃ w : ℤ, n.value = w) :
      convert name (.number n) = .error (.invalidValue n.text "integer") := by
    rw [convert_integer named, integerOf_of_not_whole broken]
    simp [Conversion.orInvalid, Value.json, Value.write]
  refine ⟨⟨?_, fun inside => ?_⟩, exact, refused⟩
  · rintro converted ⟨w, whole, outside⟩
    rw [exact w whole] at converted
    rcases converted with ⟨j, came, same⟩ | failed
    · injection came with came
      obtain rfl : clamp64 w = j := by simpa [Value.int] using came
      rw [whole, Int.cast_inj] at same
      exact outside (same ▸ fits64_clamp64 w)
    · cases failed
  · by_cases broken : ∃ w : ℤ, n.value = w
    · obtain ⟨w, whole⟩ := broken
      have fits : Fits64 w := not_not.mp fun outside => inside ⟨w, whole, outside⟩
      exact .inl ⟨w, by rw [exact w whole, clamp64_of_fits fits], whole.symm⟩
    · exact .inr (refused broken)

theorem half_refused_and_five_kept :
    convert "Integer" (.number (.float ⟨false, 2 ^ 52, -53, by decide⟩)) =
        .error (.invalidValue "0.5" "integer") ∧
      convert "LONG" (.number (.int 5)) = .ok (.int 5) := by
  have integer : Text.lower "Integer" ∈ ["integer", "int", "long"] := by decide
  have long : Text.lower "LONG" ∈ ["integer", "int", "long"] := by decide
  have half : (Number.float ⟨false, 2 ^ 52, -53, by decide⟩).InDocument := trivial
  have five : (Number.int 5).InDocument := ⟨by decide, by decide⟩
  obtain ⟨-, -, refused⟩ := integer_conversion_exact_iff integer half
  obtain ⟨-, kept, -⟩ := integer_conversion_exact_iff long five
  refine ⟨refused ?_, kept 5 rfl⟩
  rintro ⟨w, whole⟩
  have twice : (2 * w : ℚ) = 1 := by
    rw [← whole]
    norm_num [Number.value, Double.value, Double.magnitude]
  have odd : 2 * w = 1 := by exact_mod_cast twice
  omega

/-- The integer beyond the signed range becomes the one before it. -/
theorem integer_out_of_range_changed :
    ¬ ∀ (n : Number) (j : ℤ), n.InDocument → convert "integer" (.number n) = .ok (.int j) →
      (j : ℚ) = n.value := by
  intro law
  have document : (Number.int 0x8000000000000000).InDocument := ⟨by decide, by decide⟩
  have changed : convert "integer" (.number (.int 0x8000000000000000)) =
      .ok (.int 0x7fffffffffffffff) := by
    rw [convert_integer (by decide), Number.integerOf_of_whole document rfl]
    rfl
  have same := law _ _ document changed
  revert same
  norm_num [Number.value]

end Parley
