import Parley.Number.Shortest
import Parley.Proofs.Numerals
import Parley.Proofs.Rounding

/-!
# Parley.Proofs.Decimals

The decimal that is written for a double lies between the midpoints to its neighbours, and all that
lies there is rounded to the double.

* `Double.Basin`: the rationals there. `Double.readsBack_iff`: what the writer tests.
* `Double.nearest?_of_basin`: they are rounded to the double.
* `Double.basin_shortest`: the decimal that is written is one of them.
-/

namespace Parley

/-! ## Decimals -/

namespace Decimal

/-- The number that the decimal is. -/
def value (d : Decimal) : ℚ := d.digits * 10 ^ d.exponent

variable {d : Decimal} {n : ℕ} {e : ℤ}

theorem compare_div_div (a c : ℕ) {b d : ℕ} (posB : 0 < b) (posD : 0 < d) :
    Ord.compare ((a : ℚ) / b) ((c : ℚ) / d) = Ord.compare (a * d) (c * b) := by
  have posB' : (0 : ℚ) < b := by exact_mod_cast posB
  have posD' : (0 : ℚ) < d := by exact_mod_cast posD
  rcases lt_trichotomy ((a : ℚ) / b) (c / d) with less | same | more
  · rw [compare_lt_iff_lt.mpr less, eq_comm, compare_lt_iff_lt]
    rw [div_lt_div_iff₀ posB' posD'] at less
    exact_mod_cast less
  · rw [compare_eq_iff_eq.mpr same, eq_comm, compare_eq_iff_eq]
    rw [div_eq_div_iff posB'.ne' posD'.ne'] at same
    exact_mod_cast same
  · rw [compare_gt_iff_gt.mpr more, eq_comm, compare_gt_iff_gt]
    rw [div_lt_div_iff₀ posD' posB'] at more
    exact_mod_cast more

/-- The comparison with a binary number is that of the numbers. -/
theorem compareBinary_eq (d : Decimal) (n : ℕ) (e : ℤ) :
    d.compareBinary n e = Ord.compare d.value ((n : ℚ) * 2 ^ e) := by
  have ten := zpow_eq_div 10 d.exponent
  have two := zpow_eq_div 2 e
  rw [Nat.cast_ofNat] at ten two
  have posTen : 0 < Nat.pow 10 (-d.exponent).toNat := Nat.pow_pos (by decide)
  have posTwo : 0 < Nat.pow 2 (-e).toNat := Nat.pow_pos two_pos
  rw [value, ten, two, mul_div_assoc', mul_div_assoc', ← Nat.cast_mul, ← Nat.cast_mul,
    compare_div_div _ _ posTen posTwo]
  rfl

theorem value_strip (fuel : ℕ) (d : Decimal) : (d.strip fuel).value = d.value := by
  induction fuel generalizing d with
  | zero => rfl
  | succ fuel ih =>
    rw [strip]
    split
    · rename_i trailing
      have whole : (d.digits : ℚ) = (d.digits / 10 : ℕ) * 10 := by
        have exact : d.digits = d.digits / 10 * 10 := by omega
        exact_mod_cast exact
      rw [ih, value, value, whole, zpow_add₀ (by norm_num)]
      ring
    · rfl

end Decimal

namespace Double

variable {x : Double} {d : Decimal} {q : ℚ}

/-! ## Decimals around a number -/

/-- The neighbour below has the exponent below. -/
def Narrow (x : Double) : Prop := x.mantissa = 2 ^ 52 ∧ -1074 < x.exponent

instance (x : Double) : Decidable x.Narrow := inferInstanceAs (Decidable (_ ∧ _))

/-- The midpoint to the neighbour below, in quarters of the unit of the mantissa. -/
def lowQuarters (x : Double) : ℕ := if x.Narrow then 4 * x.mantissa - 1 else 4 * x.mantissa - 2

/-- The rationals between the midpoints to the neighbours, with the midpoints if the mantissa is
even. -/
structure Basin (x : Double) (q : ℚ) : Prop where
  low : x.lowQuarters * 2 ^ (x.exponent - 2) ≤ q
  high : q ≤ (4 * x.mantissa + 2 : ℕ) * 2 ^ (x.exponent - 2)
  ends : q = x.lowQuarters * 2 ^ (x.exponent - 2) ∨
    q = (4 * x.mantissa + 2 : ℕ) * 2 ^ (x.exponent - 2) → x.mantissa % 2 = 0

theorem readsBack_iff : x.readsBack d = true ↔ x.Basin d.value := by
  have midpoint : x.lowQuarters = if x.mantissa = Nat.pow 2 52 ∧ -1074 < x.exponent
      then 4 * x.mantissa - 1 else 4 * x.mantissa - 2 := rfl
  simp only [readsBack, Decimal.compareBinary_eq, decide_eq_true_eq, ← midpoint,
    Bool.and_eq_true, Bool.or_eq_true, compare_gt_iff_gt, compare_eq_iff_eq, compare_lt_iff_lt]
  constructor
  · rintro ⟨above, below⟩
    refine ⟨?_, ?_, ?_⟩
    · rcases above with more | ⟨-, same⟩
      · exact more.le
      · exact same.ge
    · rcases below with less | ⟨-, same⟩
      · exact less.le
      · exact same.le
    · rintro (same | same)
      · exact above.elim (fun more => absurd same more.ne') And.left
      · exact below.elim (fun less => absurd same less.ne) And.left
  · rintro ⟨low, high, ends⟩
    constructor
    · rcases low.eq_or_lt with same | more
      · exact .inr ⟨ends (.inl same.symm), same.symm⟩
      · exact .inl more
    · rcases high.eq_or_lt with same | less
      · exact .inr ⟨ends (.inr same), same⟩
      · exact .inl less

theorem lowQuarters_cases (pos : x.mantissa ≠ 0) :
    x.Narrow ∧ x.lowQuarters + 1 = 4 * x.mantissa ∨
      ¬ x.Narrow ∧ x.lowQuarters + 2 = 4 * x.mantissa := by
  by_cases narrow : x.Narrow
  · exact .inl ⟨narrow, by rw [lowQuarters, if_pos narrow]; omega⟩
  · exact .inr ⟨narrow, by rw [lowQuarters, if_neg narrow]; omega⟩

/-- What lies around a number, in units of its mantissa. -/
structure Basin.Scaled (x : Double) (u : ℚ) : Prop where
  low : (x.lowQuarters : ℚ) ≤ 4 * u
  high : 4 * u ≤ 4 * x.mantissa + 2
  ends : 4 * u = x.lowQuarters ∨ 4 * u = 4 * x.mantissa + 2 → x.mantissa % 2 = 0

theorem Basin.scaled (h : x.Basin q) : Scaled x (q / 2 ^ x.exponent) := by
  have unit : (0 : ℚ) < 2 ^ x.exponent := by positivity
  have quarter (k : ℚ) : k * 2 ^ (x.exponent - 2) = k / 4 * 2 ^ x.exponent := by
    rw [zpow_sub₀ two_ne_zero]
    ring
  have low := h.low
  have high := h.high
  have ends := h.ends
  rw [quarter] at low high
  simp only [quarter] at ends
  rw [← le_div_iff₀ unit] at low
  rw [← div_le_iff₀ unit] at high
  rw [← div_eq_iff unit.ne', ← div_eq_iff unit.ne'] at ends
  push_cast at high ends
  refine ⟨by linarith, by linarith, fun tie => ends ?_⟩
  rcases tie with same | same
  · exact .inl (by linarith)
  · exact .inr (by linarith)

theorem ofParts?_self (x : Double) : ofParts? x.negative x.mantissa x.exponent = some x :=
  dif_pos x.canonical

theorem mantissa_le (x : Double) : (x.mantissa : ℚ) ≤ 2 ^ 53 - 1 := by
  have below : x.mantissa + 1 ≤ 2 ^ 53 := x.canonical.1
  have belowQ : (x.mantissa : ℚ) + 1 ≤ 2 ^ 53 := by exact_mod_cast below
  linarith

/-- What lies around a number is rounded to it. -/
theorem rounds_of_basin (pos : x.mantissa ≠ 0) (h : x.Basin q)
    (full : x.exponent = -1074 ∨ 2 ^ (52 + x.exponent) ≤ q) :
    Rounds q x.mantissa x.exponent := by
  have unit : (0 : ℚ) < 2 ^ x.exponent := by positivity
  have scaled := h.scaled
  have top := x.mantissa_le
  obtain ⟨low, high, ends⟩ := scaled
  have cases := lowQuarters_cases pos
  refine ⟨⟨x.canonical.2.1, ?_, full⟩, ⟨?_, ?_⟩⟩
  · have power : (2 : ℚ) ^ (53 : ℤ) = 2 ^ 53 := by norm_cast
    rw [zpow_add₀ two_ne_zero, ← div_lt_iff₀ unit, power]
    linarith
  · have near : (4 * x.mantissa : ℚ) ≤ x.lowQuarters + 2 := by
      have nearN : 4 * x.mantissa ≤ x.lowQuarters + 2 := by omega
      exact_mod_cast nearN
    rw [abs_le]
    constructor <;> linarith
  · -- Ties are the ends, unless the lower end is nearer than half a unit.
    intro tie
    rcases abs_eq (by norm_num) |>.mp tie with above | below
    · exact ends (.inr (by linarith))
    · rcases cases with ⟨-, quarters⟩ | ⟨-, quarters⟩
      · have quartersQ : (x.lowQuarters : ℚ) + 1 = 4 * x.mantissa := by exact_mod_cast quarters
        linarith
      · have quartersQ : (x.lowQuarters : ℚ) + 2 = 4 * x.mantissa := by exact_mod_cast quarters
        exact ends (.inl (by linarith))

/-- What lies around a number and below its exponent lies around the least mantissa. -/
theorem narrow_of_basin_below (pos : x.mantissa ≠ 0) (h : x.Basin q) (above : -1074 < x.exponent)
    (below : q / 2 ^ x.exponent < 2 ^ 52) : x.Narrow := by
  have full : 2 ^ 52 ≤ x.mantissa := x.canonical.2.2.2.resolve_right above.ne'
  have cases := lowQuarters_cases pos
  have near : (4 * x.mantissa : ℚ) ≤ x.lowQuarters + 2 := by
    exact_mod_cast (by omega : 4 * x.mantissa ≤ x.lowQuarters + 2)
  have low := h.scaled.low
  have smallQ : (x.mantissa : ℚ) < 2 ^ 52 + 1 := by linarith
  have small : x.mantissa < 2 ^ 52 + 1 := by exact_mod_cast smallQ
  exact ⟨by omega, above⟩

/-- Below a power of two the numbers are twice as dense, and what is rounded up to it is carried. -/
theorem rounds_of_basin_below (pos : x.mantissa ≠ 0) (h : x.Basin q) (above : -1074 < x.exponent)
    (below : q < 2 ^ (52 + x.exponent)) :
    x.mantissa = 2 ^ 52 ∧ Rounds q (2 ^ 53) (x.exponent - 1) := by
  have unit : (0 : ℚ) < 2 ^ x.exponent := by positivity
  have power (k : ℤ) : (2 : ℚ) ^ (k + x.exponent) = 2 ^ k * 2 ^ x.exponent :=
    zpow_add₀ two_ne_zero k x.exponent
  rw [power, ← div_lt_iff₀ unit] at below
  have narrow := narrow_of_basin_below pos h above (by exact_mod_cast below)
  have low : (4 * 2 ^ 52 : ℚ) ≤ 4 * (q / 2 ^ x.exponent) + 1 := by
    have quartersN : 4 * 2 ^ 52 = x.lowQuarters + 1 := by
      rw [lowQuarters, if_pos narrow, narrow.1]
      rfl
    have quarters : (4 * 2 ^ 52 : ℚ) = x.lowQuarters + 1 := by exact_mod_cast quartersN
    have scaled := h.scaled.low
    linarith
  have double : q / 2 ^ (x.exponent - 1) = 2 * (q / 2 ^ x.exponent) := by
    rw [zpow_sub₀ two_ne_zero, zpow_one]
    field_simp
  have upper : q / 2 ^ x.exponent < 2 ^ 52 := by exact_mod_cast below
  refine ⟨narrow.1, ⟨⟨by omega, ?_, .inr ?_⟩, ⟨?_, fun _ => rfl⟩⟩⟩
  · have same : 53 + (x.exponent - 1) = 52 + x.exponent := by ring
    rw [same, power, ← div_lt_iff₀ unit]
    exact below
  · have same : 52 + (x.exponent - 1) = 51 + x.exponent := by ring
    have half : (2 : ℚ) ^ (51 : ℤ) = 2 ^ 51 := by norm_cast
    rw [same, power, ← le_div_iff₀ unit, half]
    linarith
  · rw [double, abs_le]
    push_cast
    constructor <;> linarith

/-- **What lies around a number is read as that number.** -/
theorem nearest?_of_basin {num den : ℕ} (pos : x.mantissa ≠ 0) (posD : 0 < den)
    (h : x.Basin ((num : ℚ) / den)) : nearest? x.negative num den = some x := by
  have posN : 0 < num := by
    by_contra none
    have lowQuarters := lowQuarters_cases pos
    have lowQ : (0 : ℚ) < x.lowQuarters := by
      have lowN : 0 < x.lowQuarters := by omega
      exact_mod_cast lowN
    have low := h.low
    have zero : num = 0 := by omega
    rw [zero, Nat.cast_zero, zero_div] at low
    have above : (0 : ℚ) < x.lowQuarters * 2 ^ (x.exponent - 2) := by positivity
    linarith
  -- What lies below the least mantissa has the exponent below, and is carried.
  by_cases full : x.exponent = -1074 ∨ 2 ^ (52 + x.exponent) ≤ (num : ℚ) / den
  · have uncarried : x.mantissa ≠ Nat.pow 2 53 := x.canonical.1.ne
    rw [nearest?_eq posN posD (rounds_of_basin pos h full), if_neg uncarried, ofParts?_self]
  · rw [not_or, not_le] at full
    have above : -1074 < x.exponent := lt_of_le_of_ne x.canonical.2.1 (Ne.symm full.1)
    obtain ⟨least, rounds⟩ := rounds_of_basin_below pos h above full.2
    have carried : 2 ^ 53 = Nat.pow 2 53 := rfl
    have self := ofParts?_self x
    rw [least] at self
    rw [nearest?_eq posN posD rounds, if_pos carried, sub_add_cancel]
    exact self

/-! ## The shortest decimal -/

theorem roundQuotient_eq (num den : ℕ) :
    roundQuotient num den = num / den ∨ roundQuotient num den = num / den + 1 := by
  unfold roundQuotient
  extract_lets whole twice
  split
  · exact .inl rfl
  · split
    · exact .inr rfl
    · omega

theorem of_onGrid?_eq_some {grid : ℤ} (found : x.onGrid? grid = some d) : x.readsBack d = true := by
  unfold onGrid? at found
  extract_lets num den below above at found
  split at found
  · cases found
  · rename_i reads _
    exact Option.some.inj found ▸ reads
  · rename_i _ reads
    exact Option.some.inj found ▸ reads
  · rename_i readsBelow readsAbove
    rw [← Option.some.inj found]
    rcases roundQuotient_eq num den with same | same <;> rw [same]
    · exact readsBelow
    · exact readsAbove

theorem value_exact (x : Double) : x.exact.value = x.magnitude := by
  unfold exact magnitude Decimal.value
  split
  · rename_i up
    have power : (2 : ℚ) ^ x.exponent.toNat = 2 ^ x.exponent := by
      rw [← zpow_natCast, Int.toNat_of_nonneg up]
    rw [num, Nat.pow_eq]
    push_cast
    rw [power, mul_one]
  · rename_i down
    have powers : (5 : ℚ) ^ (-x.exponent).toNat * 10 ^ x.exponent = 2 ^ x.exponent := by
      have ten : (10 : ℚ) = 5 * 2 := by norm_num
      rw [← zpow_natCast, Int.toNat_of_nonneg (by omega), ten, mul_zpow, ← mul_assoc,
        ← zpow_add₀ (by norm_num), neg_add_cancel, zpow_zero, one_mul]
    rw [Nat.pow_eq]
    push_cast
    rw [mul_assoc, powers]

/-- The number itself lies around it. -/
theorem basin_magnitude (pos : x.mantissa ≠ 0) : x.Basin x.magnitude := by
  have unit : (0 : ℚ) < 2 ^ (x.exponent - 2) := by positivity
  have same : x.magnitude = (4 * x.mantissa : ℕ) * 2 ^ (x.exponent - 2) := by
    rw [magnitude, zpow_sub₀ two_ne_zero]
    push_cast
    ring
  have cases := lowQuarters_cases pos
  have below : (x.lowQuarters : ℚ) < (4 * x.mantissa : ℕ) := by
    exact_mod_cast (by omega : x.lowQuarters < 4 * x.mantissa)
  have above : ((4 * x.mantissa : ℕ) : ℚ) < (4 * x.mantissa + 2 : ℕ) := by
    exact_mod_cast (by omega : 4 * x.mantissa < 4 * x.mantissa + 2)
  have low := mul_lt_mul_of_pos_right below unit
  have high := mul_lt_mul_of_pos_right above unit
  rw [same]
  refine ⟨low.le, high.le, fun tie => ?_⟩
  rcases tie with eq | eq
  · exact absurd eq low.ne'
  · exact absurd eq high.ne

/-- The decimal that is written lies around the number. -/
theorem basin_shortest (pos : x.mantissa ≠ 0) : x.Basin x.shortest.value := by
  unfold shortest
  extract_lets k found
  rw [Decimal.value_strip]
  cases came : found with
  | none =>
    rw [Option.getD_none, value_exact]
    exact basin_magnitude pos
  | some d =>
    obtain ⟨i, -, onGrid⟩ := List.exists_of_findSome?_eq_some came
    exact readsBack_iff.mp (of_onGrid?_eq_some onGrid)

/-- What lies around a number is neither less than half the least one nor beyond them all. -/
theorem Basin.bounds (pos : x.mantissa ≠ 0) (h : x.Basin q) :
    2 ^ (-1075 : ℤ) ≤ q ∧ q < 2 ^ (1024 : ℤ) := by
  have quarters : (2 : ℚ) ≤ x.lowQuarters := by
    have cases := lowQuarters_cases pos
    have two : 2 ≤ x.lowQuarters := by omega
    exact_mod_cast two
  have top : ((4 * x.mantissa + 2 : ℕ) : ℚ) < 2 ^ 55 := by
    have below : x.mantissa < 2 ^ 53 := x.canonical.1
    have small : 4 * x.mantissa + 2 < 2 ^ 55 := by omega
    exact_mod_cast small
  have unit : (0 : ℚ) < 2 ^ (x.exponent - 2) := by positivity
  have raise {a b : ℤ} (le : a ≤ b) : (2 : ℚ) ^ a ≤ 2 ^ b := zpow_le_zpow_right₀ one_le_two le
  constructor
  · calc (2 : ℚ) ^ (-1075 : ℤ) = 2 ^ (1 + -1076 : ℤ) := rfl
      _ = 2 * 2 ^ (-1076 : ℤ) := zpow_one_add₀ two_ne_zero _
      _ ≤ x.lowQuarters * 2 ^ (x.exponent - 2) := by
          have least := x.canonical.2.1
          exact mul_le_mul quarters (raise (by omega)) (by positivity) (by positivity)
      _ ≤ q := h.low
  · calc q ≤ (4 * x.mantissa + 2 : ℕ) * 2 ^ (x.exponent - 2) := h.high
      _ < 2 ^ 55 * 2 ^ (x.exponent - 2) := mul_lt_mul_of_pos_right top unit
      _ = 2 ^ (55 + (x.exponent - 2)) := by rw [zpow_add₀ two_ne_zero]; norm_cast
      _ ≤ 2 ^ (1024 : ℤ) := by
          have greatest := x.canonical.2.2.1
          exact raise (by omega)

end Double

end Parley
