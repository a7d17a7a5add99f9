import Mathlib.Algebra.Order.Field.Power
import Mathlib.Algebra.Order.Field.Rat
import Mathlib.Tactic.FieldSimp
import Mathlib.Tactic.Linarith
import Mathlib.Tactic.Positivity
import Mathlib.Tactic.Ring
import Parley.Number.Double

/-!
# Parley.Proofs.Rounding

Doubles as rationals, and what it is to be rounded to one. A positive rational has a scale, the
exponent at which it has fifty-three binary digits, and its double has the nearest whole number of
units of that scale, the even one of two. So rounding keeps the order, and it changes no integer
of fifty-three binary digits.

* `Double.Rounds`: the mantissa and the exponent of a rational. `Double.Rounds.mono`: the order is
  kept.
* `Double.nearest?_eq`: quotients are rounded so.
* `Double.units_le_iff`, `Double.whole?_eq_some_iff`: units and the numbers that they count.
* `Double.value_mono`, `Double.value_of_natAbs_le`: integers as doubles.
-/

namespace Parley

theorem zpow_eq_div (b : ℕ) (e : ℤ) :
    (b : ℚ) ^ e = (Nat.pow b e.toNat : ℕ) / (Nat.pow b (-e).toNat : ℕ) := by
  simp only [Nat.pow_eq, Nat.cast_pow]
  rcases le_total 0 e with up | down
  · have none : (-e).toNat = 0 := by omega
    rw [none, pow_zero, div_one, ← zpow_natCast, Int.toNat_of_nonneg up]
  · have none : e.toNat = 0 := by omega
    rw [none, pow_zero, ← zpow_natCast, Int.toNat_of_nonneg (by omega), one_div, ← zpow_neg,
      neg_neg]

namespace Double

/-- The absolute value. -/
def magnitude (x : Double) : ℚ := x.mantissa * 2 ^ x.exponent

/-- The whole number is nearest to the rational, and is even if another one is as near. -/
structure NearestEven (q : ℚ) (m : ℕ) : Prop where
  near : |q - m| ≤ 1 / 2
  even : |q - m| = 1 / 2 → m % 2 = 0

/-- The exponent at which a positive rational has fifty-three binary digits, or the least one. -/
structure Scale (q : ℚ) (e : ℤ) : Prop where
  least : -1074 ≤ e
  below : q < 2 ^ (53 + e)
  full : e = -1074 ∨ 2 ^ (52 + e) ≤ q

/-- The mantissa and the exponent that a positive rational is rounded to. -/
structure Rounds (q : ℚ) (m : ℕ) (e : ℤ) : Prop where
  scale : Scale q e
  nearest : NearestEven (q / 2 ^ e) m

/-- The number. -/
def value (x : Double) : ℚ := if x.negative then -x.magnitude else x.magnitude

variable {q r : ℚ} {m n num den : ℕ} {e f : ℤ} {x y : Double}

/-! ## Nearest whole numbers -/

theorem NearestEven.mono (hm : NearestEven q m) (hn : NearestEven r n) (le : q ≤ r) : m ≤ n := by
  by_contra less
  obtain ⟨lowQ, -⟩ := abs_le.mp hm.near
  obtain ⟨-, highR⟩ := abs_le.mp hn.near
  have step : (n : ℚ) + 1 ≤ m := by exact_mod_cast Nat.lt_of_not_le less
  -- Only a tie between neighbours is left, and both of them would be even.
  have tieM : |q - m| = 1 / 2 := by
    rw [abs_of_nonpos (by linarith)]
    linarith
  have tieN : |r - n| = 1 / 2 := by
    rw [abs_of_nonneg (by linarith)]
    linarith
  have next : m = n + 1 := by
    have same : (m : ℚ) = n + 1 := by linarith
    exact_mod_cast same
  have evenM := hm.even tieM
  have evenN := hn.even tieN
  omega

theorem NearestEven.unique (hm : NearestEven q m) (hn : NearestEven q n) : m = n :=
  Nat.le_antisymm (hm.mono hn le_rfl) (hn.mono hm le_rfl)

theorem NearestEven.of_nat (m : ℕ) : NearestEven m m where
  near := by norm_num
  even := by norm_num

theorem NearestEven.of_low (low : 0 ≤ r) (high : r < 1 / 2) : NearestEven (m + r) m := by
  have away : |(m + r : ℚ) - m| < 1 / 2 := by rwa [add_sub_cancel_left, abs_of_nonneg low]
  exact ⟨away.le, fun same => absurd same away.ne⟩

theorem NearestEven.of_tie (m : ℕ) : NearestEven (m + 1 / 2) (m + m % 2) := by
  have parity : m % 2 = 0 ∨ m % 2 = 1 := by omega
  refine ⟨?_, fun _ => by omega⟩
  rcases parity with even | odd
  · rw [even, Nat.add_zero, add_sub_cancel_left, abs_of_nonneg (by norm_num)]
  · have back : (m + 1 / 2 : ℚ) - (m + 1 : ℕ) = -(1 / 2) := by
      push_cast
      ring
    rw [odd, back, abs_neg, abs_of_nonneg (by norm_num)]

theorem NearestEven.of_high (low : 1 / 2 < r) (high : r < 1) : NearestEven (m + r) (m + 1) := by
  have away : |(m + r : ℚ) - (m + 1 : ℕ)| < 1 / 2 := by
    push_cast
    rw [add_sub_add_left_eq_sub, abs_of_neg (by linarith)]
    linarith
  exact ⟨away.le, fun same => absurd same away.ne⟩

theorem roundQuotient_nearestEven (num : ℕ) (pos : 0 < den) :
    NearestEven ((num : ℚ) / den) (roundQuotient num den) := by
  have posQ : (0 : ℚ) < den := by exact_mod_cast pos
  have split : (num : ℚ) / den = (num / den : ℕ) + (num % den : ℕ) / den := by
    have whole : (num : ℚ) = den * (num / den : ℕ) + (num % den : ℕ) := by
      exact_mod_cast (Nat.div_add_mod num den).symm
    rw [div_eq_iff posQ.ne', add_mul, div_mul_cancel₀ _ posQ.ne', mul_comm]
    exact whole
  have less : num % den < den := Nat.mod_lt num pos
  rw [split, roundQuotient]
  generalize num / den = w
  generalize num % den = t at *
  rcases lt_trichotomy (2 * t) den with below | tie | above
  · rw [if_pos below]
    refine .of_low (by positivity) ?_
    rw [div_lt_div_iff₀ posQ two_pos]
    exact_mod_cast (by omega : t * 2 < 1 * den)
  · have half : (t : ℚ) / den = 1 / 2 := by
      rw [div_eq_div_iff posQ.ne' two_ne_zero]
      exact_mod_cast (by omega : t * 2 = 1 * den)
    rw [if_neg (by omega), if_neg (by omega), half]
    exact .of_tie w
  · rw [if_neg (by omega), if_pos above]
    refine .of_high ?_ ?_
    · rw [div_lt_div_iff₀ two_pos posQ]
      exact_mod_cast (by omega : 1 * den < t * 2)
    · rw [div_lt_one posQ]
      exact_mod_cast less

/-! ## Exponents -/

theorem Scale.le (h : Scale q e) (h' : Scale r f) (le : q ≤ r) : e ≤ f := by
  rcases h.full with least | full
  · exact least ▸ h'.least
  · have powers : (2 : ℚ) ^ (52 + e) < 2 ^ (53 + f) := by
      calc (2 : ℚ) ^ (52 + e) ≤ q := full
        _ ≤ r := le
        _ < 2 ^ (53 + f) := h'.below
    have exponents := (zpow_lt_zpow_iff_right₀ one_lt_two).mp powers
    omega

theorem Scale.unique (h : Scale q e) (h' : Scale q f) : e = f :=
  le_antisymm (h.le h' le_rfl) (h'.le h le_rfl)

/-- The quotient in units of a power of two. -/
theorem cast_scaled (num den : ℕ) (e : ℤ) :
    ((num * Nat.pow 2 (-e).toNat : ℕ) : ℚ) / (den * Nat.pow 2 e.toNat : ℕ) =
      (num : ℚ) / den / 2 ^ e := by
  have power := zpow_eq_div 2 e
  rw [Nat.cast_ofNat] at power
  rw [power]
  push_cast
  rw [div_div_div_eq]

theorem scaled_lt_iff (posD : 0 < den) (k : ℕ) :
    num * Nat.pow 2 (-e).toNat < Nat.pow 2 k * (den * Nat.pow 2 e.toNat) ↔
      (num : ℚ) / den < 2 ^ (k + e) := by
  have posS : 0 < den * Nat.pow 2 e.toNat := Nat.mul_pos posD (Nat.pow_pos two_pos)
  have unit : (0 : ℚ) < 2 ^ e := by positivity
  have scaled := cast_scaled num den e
  generalize den * Nat.pow 2 e.toNat = s at *
  generalize num * Nat.pow 2 (-e).toNat = t at *
  have posQ : (0 : ℚ) < s := by exact_mod_cast posS
  rw [zpow_add₀ two_ne_zero, zpow_natCast, ← div_lt_iff₀ unit, ← scaled, div_lt_iff₀ posQ,
    Nat.pow_eq]
  exact_mod_cast Iff.rfl

/-- The binary logarithms of numerator and denominator leave two exponents to choose from. -/
theorem log2_bounds (posN : 0 < num) (posD : 0 < den) :
    (2 : ℚ) ^ ((num.log2 : ℤ) - den.log2 - 1) < num / den ∧
      (num : ℚ) / den < 2 ^ ((num.log2 : ℤ) - den.log2 + 1) := by
  have lowN : ((2 : ℚ) ^ num.log2) ≤ num := by exact_mod_cast Nat.log2_self_le posN.ne'
  have highN : (num : ℚ) < 2 ^ (num.log2 + 1) := by exact_mod_cast Nat.lt_log2_self
  have lowD : ((2 : ℚ) ^ den.log2) ≤ den := by exact_mod_cast Nat.log2_self_le posD.ne'
  have highD : (den : ℚ) < 2 ^ (den.log2 + 1) := by exact_mod_cast Nat.lt_log2_self
  have posQ : (0 : ℚ) < den := by exact_mod_cast posD
  constructor
  · calc (2 : ℚ) ^ ((num.log2 : ℤ) - den.log2 - 1) = 2 ^ num.log2 / 2 ^ (den.log2 + 1) := by
          rw [← zpow_natCast, ← zpow_natCast, ← zpow_sub₀ two_ne_zero]
          congr 1
          push_cast
          ring
      _ < num / den := by
          exact div_lt_div₀' lowN highD (by positivity) posQ
  · calc (num : ℚ) / den < 2 ^ (num.log2 + 1) / 2 ^ den.log2 := by
          exact div_lt_div₀ highN lowD (by positivity) (by positivity)
      _ = 2 ^ ((num.log2 : ℤ) - den.log2 + 1) := by
          rw [← zpow_natCast, ← zpow_natCast, ← zpow_sub₀ two_ne_zero]
          congr 1
          push_cast
          ring

theorem exponentFor_scale (posN : 0 < num) (posD : 0 < den) :
    Scale ((num : ℚ) / den) (exponentFor num den) := by
  obtain ⟨low, high⟩ := log2_bounds posN posD
  unfold exponentFor
  extract_lets e
  have raise {a b : ℤ} (le : a ≤ b) : (2 : ℚ) ^ a ≤ 2 ^ b := zpow_le_zpow_right₀ one_le_two le
  -- The comparison decides between the two exponents that the logarithms leave.
  by_cases less : -1074 < e ∧
      num * Nat.pow 2 (-e).toNat < Nat.pow 2 52 * (den * Nat.pow 2 e.toNat)
  · rw [if_pos less]
    obtain ⟨above, small⟩ := less
    rw [scaled_lt_iff posD] at small
    refine ⟨by omega, ?_, .inr ?_⟩
    · have same : 53 + (e - 1) = (52 : ℕ) + e := by push_cast; ring
      rwa [same]
    · exact (raise (by omega)).trans low.le
  · rw [if_neg less]
    rw [scaled_lt_iff posD] at less
    refine ⟨by omega, high.trans_le (raise (by omega)), ?_⟩
    by_cases least : e = -1074
    · exact .inl least
    · exact .inr (not_lt.mp fun small => less ⟨by omega, small⟩)

/-! ## Rounding -/

theorem exists_rounds (posN : 0 < num) (posD : 0 < den) :
    Rounds ((num : ℚ) / den)
      (roundQuotient (num * Nat.pow 2 (-exponentFor num den).toNat)
        (den * Nat.pow 2 (exponentFor num den).toNat))
      (exponentFor num den) := by
  refine ⟨exponentFor_scale posN posD, ?_⟩
  rw [← cast_scaled]
  exact roundQuotient_nearestEven _ (Nat.mul_pos posD (Nat.pow_pos two_pos))

theorem Rounds.unique (h : Rounds q m e) (h' : Rounds q n f) : m = n ∧ e = f := by
  obtain rfl := h.scale.unique h'.scale
  exact ⟨h.nearest.unique h'.nearest, rfl⟩

theorem Rounds.mantissa_le (h : Rounds q m e) : m ≤ 2 ^ 53 := by
  have unit : (0 : ℚ) < 2 ^ e := by positivity
  refine h.nearest.mono (.of_nat (2 ^ 53)) ?_
  have below := h.scale.below
  rw [zpow_add₀ two_ne_zero] at below
  rw [div_le_iff₀ unit]
  exact_mod_cast below.le

theorem Rounds.le_mantissa (h : Rounds q m e) (above : -1074 < e) : 2 ^ 52 ≤ m := by
  have unit : (0 : ℚ) < 2 ^ e := by positivity
  refine (NearestEven.of_nat (2 ^ 52)).mono h.nearest ?_
  have full := h.scale.full.resolve_left (by omega)
  rw [zpow_add₀ two_ne_zero] at full
  rw [le_div_iff₀ unit]
  exact_mod_cast full

/-- Rounding does not change the order. -/
theorem Rounds.mono (h : Rounds q m e) (h' : Rounds r n f) (le : q ≤ r) :
    (m : ℚ) * 2 ^ e ≤ n * 2 ^ f := by
  rcases (h.scale.le h'.scale le).eq_or_lt with rfl | less
  · have unit : (0 : ℚ) < 2 ^ e := by positivity
    have mantissas := h.nearest.mono h'.nearest (div_le_div_of_nonneg_right le unit.le)
    gcongr
  · have upper : (m : ℚ) ≤ 2 ^ 53 := by exact_mod_cast h.mantissa_le
    have lower : (2 : ℚ) ^ 52 ≤ n := by
      exact_mod_cast h'.le_mantissa (h.scale.least.trans_lt less)
    calc (m : ℚ) * 2 ^ e ≤ 2 ^ 53 * 2 ^ e := by gcongr
      _ = 2 ^ (53 + e) := by rw [zpow_add₀ two_ne_zero]; norm_cast
      _ ≤ 2 ^ (52 + f) := zpow_le_zpow_right₀ one_le_two (by omega)
      _ = 2 ^ 52 * 2 ^ f := by rw [zpow_add₀ two_ne_zero]; norm_cast
      _ ≤ n * 2 ^ f := by gcongr

variable {negative : Bool}

theorem nearest?_eq (posN : 0 < num) (posD : 0 < den) (h : Rounds ((num : ℚ) / den) m e) :
    nearest? negative num den =
      if m = Nat.pow 2 53 then ofParts? negative (Nat.pow 2 52) (e + 1)
      else ofParts? negative m e := by
  obtain ⟨rfl, rfl⟩ := h.unique (exists_rounds posN posD)
  rw [nearest?, if_neg posN.ne']

theorem of_ofParts?_eq_some (made : ofParts? negative m e = some x) :
    x.negative = negative ∧ x.mantissa = m ∧ x.exponent = e := by
  unfold ofParts? at made
  split at made
  · cases made
    exact ⟨rfl, rfl, rfl⟩
  · cases made

theorem of_nearest?_eq_some (posN : 0 < num) (posD : 0 < den) (h : Rounds ((num : ℚ) / den) m e)
    (made : nearest? negative num den = some x) :
    x.negative = negative ∧ x.magnitude = m * 2 ^ e := by
  rw [nearest?_eq posN posD h] at made
  split at made
  · rename_i carried
    obtain ⟨sign, mantissa, exponent⟩ := of_ofParts?_eq_some made
    refine ⟨sign, ?_⟩
    rw [magnitude, mantissa, exponent, carried, zpow_add₀ two_ne_zero, Nat.pow_eq, Nat.pow_eq]
    push_cast
    ring
  · obtain ⟨sign, mantissa, exponent⟩ := of_ofParts?_eq_some made
    exact ⟨sign, by rw [magnitude, mantissa, exponent]⟩

theorem exists_nearest?_of_lt (posN : 0 < num) (posD : 0 < den)
    (small : (num : ℚ) / den < 2 ^ (1023 : ℤ)) : ∃ x, nearest? negative num den = some x := by
  have rounds := exists_rounds posN posD
  rw [nearest?_eq posN posD rounds]
  have high := rounds.mantissa_le
  have low := rounds.le_mantissa
  have least := rounds.scale.least
  have bounded : exponentFor num den < 971 := by
    rcases rounds.scale.full with bottom | full
    · omega
    · have exponents := (zpow_lt_zpow_iff_right₀ one_lt_two).mp (full.trans_lt small)
      omega
  generalize roundQuotient _ _ = m at *
  generalize exponentFor num den = e at *
  split
  · have canonical : Canonical (Nat.pow 2 52) (e + 1) :=
      ⟨by decide, by omega, by omega, .inl le_rfl⟩
    exact ⟨_, dif_pos canonical⟩
  · rename_i uncarried
    have canonical : Canonical m e := by
      refine ⟨lt_of_le_of_ne high uncarried, least, by omega, ?_⟩
      by_cases bottom : e = -1074
      · exact .inr bottom
      · exact .inl (low (by omega))
    exact ⟨_, dif_pos canonical⟩

/-! ## Units -/

theorem cast_units (x : Double) : (x.units : ℚ) = x.value * 2 ^ 1074 := by
  have size : ((x.mantissa * Nat.pow 2 (x.exponent + 1074).toNat : ℤ) : ℚ) =
      x.magnitude * 2 ^ 1074 := by
    have least : 0 ≤ x.exponent + 1074 := by
      have := x.canonical.2.1
      omega
    have power : (2 : ℚ) ^ (x.exponent + 1074).toNat = 2 ^ x.exponent * 2 ^ 1074 := by
      rw [← zpow_natCast, Int.toNat_of_nonneg least, zpow_add₀ two_ne_zero]
      norm_cast
    rw [magnitude, mul_assoc, ← power, Nat.pow_eq]
    push_cast
    rfl
  rw [units, value]
  cases x.negative with
  | false => simpa using size
  | true => simpa using size

theorem units_le_iff : x.units ≤ y.units ↔ x.value ≤ y.value := by
  have unit : (0 : ℚ) < 2 ^ 1074 := by positivity
  rw [← Int.cast_le (R := ℚ), cast_units, cast_units, mul_le_mul_iff_left₀ unit]

theorem units_lt_iff : x.units < y.units ↔ x.value < y.value :=
  lt_iff_lt_of_le_iff_le units_le_iff

theorem units_eq_iff : x.units = y.units ↔ x.value = y.value := by
  rw [le_antisymm_iff, units_le_iff, units_le_iff, ← le_antisymm_iff]

theorem units_eq_mul_iff {k : ℤ} : x.units = k * Nat.pow 2 1074 ↔ x.value = k := by
  have units := x.cast_units
  generalize 1074 = n at *
  have unit : (2 : ℚ) ^ n ≠ 0 := by positivity
  rw [← mul_left_inj' unit, ← units, Nat.pow_eq]
  norm_cast

/-- The number is the integer that it is said to be. -/
theorem whole?_eq_some_iff {k : ℤ} : x.whole? = some k ↔ x.value = k := by
  rw [← units_eq_mul_iff, whole?]
  generalize 1074 = n
  have unit : (Nat.pow 2 n : ℤ) ≠ 0 := by exact_mod_cast (Nat.pow_pos two_pos).ne'
  constructor
  · intro found
    split at found
    · rename_i exact
      cases found
      exact (Int.ediv_mul_cancel (Int.dvd_of_emod_eq_zero exact)).symm
    · cases found
  · intro same
    rw [same, if_pos (Int.mul_emod_left k _), Int.mul_ediv_cancel k unit]

/-! ## Integers -/

/-- A rational that can be written with the exponent is not changed. -/
theorem Rounds.exact (h : Rounds q m e) {k : ℕ} (written : q = k * 2 ^ e) :
    (m : ℚ) * 2 ^ e = q := by
  have unit : (0 : ℚ) < 2 ^ e := by positivity
  have whole : q / 2 ^ e = k := by rw [written, mul_div_cancel_right₀ _ unit.ne']
  have nearest := h.nearest
  rw [whole] at nearest
  rw [nearest.unique (.of_nat k), written]

theorem cast_eq_mul_zpow (n : ℕ) (down : e ≤ 0) :
    (n : ℚ) = (n * 2 ^ (-e).toNat : ℕ) * 2 ^ e := by
  have powers : (2 : ℚ) ^ (-e).toNat * 2 ^ e = 1 := by
    rw [← zpow_natCast, Int.toNat_of_nonneg (by omega), ← zpow_add₀ two_ne_zero, neg_add_cancel,
      zpow_zero]
  push_cast
  rw [mul_assoc, powers, mul_one]

/-- Up to the first number of fifty-four digits, integers are not changed. -/
theorem Rounds.exact_of_le (h : Rounds n m e) (small : n ≤ 2 ^ 53) : (m : ℚ) * 2 ^ e = n := by
  rcases le_or_gt e 0 with down | up
  · exact h.exact (cast_eq_mul_zpow n down)
  · have full := h.scale.full.resolve_left (by omega)
    have smallQ : (n : ℚ) ≤ 2 ^ (53 : ℤ) := by exact_mod_cast small
    have exponents := (zpow_le_zpow_iff_right₀ one_lt_two).mp (full.trans smallQ)
    obtain rfl : e = 1 := by omega
    have last : (n : ℚ) = 2 ^ (53 : ℤ) := le_antisymm smallQ full
    exact h.exact (k := 2 ^ 52) (by rw [last]; norm_num)

/-- Integers are rounded to integers. -/
theorem Rounds.exists_nat (h : Rounds n m e) : ∃ k : ℕ, (m : ℚ) * 2 ^ e = k := by
  rcases le_or_gt e 0 with down | up
  · exact ⟨n, h.exact (cast_eq_mul_zpow n down)⟩
  · refine ⟨m * 2 ^ e.toNat, ?_⟩
    push_cast
    rw [← zpow_natCast, Int.toNat_of_nonneg up.le]

variable {i j : ℤ}

theorem of_ofInt?_eq_some (made : ofInt? i = some x) :
    x.negative = decide (i < 0) ∧
      (i = 0 ∧ x.magnitude = 0 ∨ i ≠ 0 ∧ ∃ m e, Rounds i.natAbs m e ∧ x.magnitude = m * 2 ^ e) := by
  by_cases zero : i = 0
  · subst zero
    cases made
    exact ⟨rfl, .inl ⟨rfl, by simp [magnitude, Double.zero]⟩⟩
  · have pos : 0 < i.natAbs := by omega
    have rounds := exists_rounds pos one_pos
    obtain ⟨sign, size⟩ := of_nearest?_eq_some pos one_pos rounds made
    rw [Nat.cast_one, div_one] at rounds
    exact ⟨sign, .inr ⟨zero, _, _, rounds, size⟩⟩

theorem magnitude_nonneg (x : Double) : 0 ≤ x.magnitude := by
  unfold magnitude
  positivity

theorem magnitude_le_of_natAbs_le (hx : ofInt? i = some x) (hy : ofInt? j = some y)
    (le : i.natAbs ≤ j.natAbs) : x.magnitude ≤ y.magnitude := by
  obtain ⟨-, ⟨-, none⟩ | ⟨nonzero, m, e, rounds, size⟩⟩ := of_ofInt?_eq_some hx
  · exact none ▸ y.magnitude_nonneg
  · obtain ⟨-, ⟨rfl, -⟩ | ⟨-, n, f, rounds', size'⟩⟩ := of_ofInt?_eq_some hy
    · omega
    · rw [size, size']
      exact rounds.mono rounds' (by exact_mod_cast le)

/-- Reading integers as doubles does not change their order. -/
theorem value_mono (hx : ofInt? i = some x) (hy : ofInt? j = some y) (le : i ≤ j) :
    x.value ≤ y.value := by
  have signX := (of_ofInt?_eq_some hx).1
  have signY := (of_ofInt?_eq_some hy).1
  have posX := x.magnitude_nonneg
  have posY := y.magnitude_nonneg
  unfold value
  rcases lt_or_ge i 0 with negI | posI
  · rcases lt_or_ge j 0 with negJ | posJ
    · have sizes := magnitude_le_of_natAbs_le hy hx (by omega)
      rw [signX, signY, if_pos (by simpa using negI), if_pos (by simpa using negJ)]
      exact neg_le_neg sizes
    · rw [signX, signY, if_pos (by simpa using negI), if_neg (by simpa using posJ)]
      linarith
  · have posJ : 0 ≤ j := posI.trans le
    have sizes := magnitude_le_of_natAbs_le hx hy (by omega)
    rw [signX, signY, if_neg (by simpa using posI), if_neg (by simpa using posJ)]
    exact sizes

theorem value_of_magnitude (made : ofInt? i = some x) {k : ℕ} (size : x.magnitude = k) :
    x.value = if i < 0 then -(k : ℤ) else (k : ℤ) := by
  rw [value, (of_ofInt?_eq_some made).1, size]
  by_cases below : i < 0 <;> simp [below]

theorem value_of_natAbs_le (made : ofInt? i = some x) (small : i.natAbs ≤ 2 ^ 53) :
    x.value = i := by
  have size : x.magnitude = i.natAbs := by
    obtain ⟨-, ⟨rfl, none⟩ | ⟨-, m, e, rounds, size⟩⟩ := of_ofInt?_eq_some made
    · simpa using none
    · rw [size, rounds.exact_of_le small]
  rw [value_of_magnitude made size]
  split
  · have same : -(i.natAbs : ℤ) = i := by omega
    exact_mod_cast same
  · have same : (i.natAbs : ℤ) = i := by omega
    exact_mod_cast same

/-- The double of an integer is an integer. -/
theorem exists_int_value (made : ofInt? i = some x) : ∃ k : ℤ, x.value = k := by
  obtain ⟨-, ⟨-, none⟩ | ⟨-, m, e, rounds, size⟩⟩ := of_ofInt?_eq_some made
  · exact ⟨0, by simp [value, none]⟩
  · obtain ⟨k, whole⟩ := rounds.exists_nat
    have same := value_of_magnitude made (size.trans whole)
    split at same
    · exact ⟨-k, by exact_mod_cast same⟩
    · exact ⟨k, by exact_mod_cast same⟩

theorem exists_ofInt? (small : i.natAbs < 2 ^ 64) : ∃ x, ofInt? i = some x := by
  by_cases zero : i = 0
  · subst zero
    exact ⟨_, rfl⟩
  · refine exists_nearest?_of_lt (by omega) one_pos ?_
    have below : (i.natAbs : ℚ) < 2 ^ (64 : ℤ) := by exact_mod_cast small
    rw [Nat.cast_one, div_one]
    exact below.trans (zpow_lt_zpow_right₀ one_lt_two (by decide))

end Double

end Parley
